import LicensingServer.Sessions.Served
import LicensingServer.Server.Refinement
import LicensingServer.Foundations.Fairness

/-!
Owns that the server makes progress under any traffic: as long as both threads
move again and again and no exception has escaped, every frame that arrives is
read, and every request that the frames call for is replied to.

Does not own clients that wait for these replies.
-/

set_option autoImplicit false

namespace LicensingServer

open LicensingServer.Foundations

/-! ### How far a thread has to go -/

/-- Every statement of the receive thread that is not repeated lowers it, up to
the next one that reads a frame. -/
def WaitThread.untilReceive {Peer : Type} : WaitThread Peer → Nat
  | .testFlag _ _ => 101
  | .push _ _ => 100
  | other => other.remaining

/-- The same for the processing thread, up to the statement that clears the flag. -/
def ProcessThread.untilClear : ProcessThread → Nat
  | .check _ => 9
  | .encrypt _ _ => 8
  | .sendIdentity _ => 7
  | .sendResult _ => 6
  | .testFlag => 5
  | .testEmpty => 4
  | .front => 3
  | .pop _ => 2
  | .clearFlag _ => 1

theorem ProcessThread.untilClear_le (process : ProcessThread) : process.untilClear ≤ 9 := by
  unfold untilClear
  split <;> decide

/-- The thread has read a request and not pushed it. -/
def WaitThread.HoldsRequest {Peer : Type} : WaitThread Peer → Prop
  | .testFlag _ _ | .push _ _ => True
  | _ => False

def WaitThread.testsFlag {Peer : Type} : WaitThread Peer → Bool
  | .testFlag _ _ => true
  | _ => false

namespace Server

variable {Peer : Type} {config : Config Peer}

/-- One of the two threads moves. -/
def Thread (who : Step Peer) : Prop := who = .waitRequest ∨ who = .processRequest

/-- What is left to do before the receive thread gets to its next frame; while
the flag is set, that includes what the processing thread does to clear it. -/
def receiveRank (server : Server Peer) : Nat :=
  10 * server.wait.untilReceive + if server.isAddingQueue then server.process.untilClear else 0

/-- Whose move brings the receive thread on. -/
def bringsReceive (server : Server Peer) : Step Peer :=
  if server.wait.testsFlag && server.isAddingQueue then .processRequest else .waitRequest

/-- What is left to do before the next result is sent. -/
def replyRank (server : Server Peer) : Nat :=
  if server.process = .testFlag ∧ server.isAddingQueue = false then 10
  else server.process.remaining

/-- Whose move brings the next result on. -/
def bringsReply (server : Server Peer) : Step Peer :=
  if server.process = .testFlag ∧ server.isAddingQueue = false then .waitRequest
  else .processRequest

/-! ### The receive thread -/

/-- A step of the receive thread reads a frame, fails, tests the flag in vain,
or lowers its rank. -/
theorem WaitMoves.receiveRank {server next : Server Peer} (moves : WaitMoves config server next) :
    (∃ frame, server.inbox = frame :: next.inbox ∧ next.received = server.received ++ [frame]) ∨
      next.terminated ≠ none ∨
      (next = server ∧ server.wait.testsFlag = true ∧ server.isAddingQueue = true) ∨
      (next.inbox = server.inbox ∧ next.received = server.received ∧
        next.receiveRank < server.receiveRank) := by
  have bounded := server.process.untilClear_le
  unfold Server.receiveRank
  cases moves with
  | recvIdentity place waiting | refuse place waiting | greet place waiting
  | recvSpub place waiting | recvEpub place waiting | recvDummy place waiting
  | recvClientID place waiting => exact .inl ⟨_, waiting, rfl⟩
  | initFails | xportFails => exact .inr (.inl (by simp [terminate]))
  | spin place isSet => exact .inr (.inr (.inl ⟨rfl, by rw [place]; rfl, isSet⟩))
  | callGenXport place =>
      have length : Crypto.genXport.length = 28 := rfl
      refine .inr (.inr (.inr ⟨rfl, rfl, ?_⟩))
      simp only [place, WaitThread.untilReceive, WaitThread.remaining, length]
      omega
  | setFlag place =>
      refine .inr (.inr (.inr ⟨rfl, rfl, ?_⟩))
      simp only [place, WaitThread.untilReceive, WaitThread.remaining]
      split_ifs <;> omega
  | _ place =>
      refine .inr (.inr (.inr ⟨rfl, rfl, ?_⟩))
      simp only [place, WaitThread.untilReceive, WaitThread.remaining, send, List.length_cons]
      omega

/-- A step of the processing thread fails, leaves the clear flag alone, or brings
the receive thread on. -/
theorem ProcessMoves.receiveRank {server next : Server Peer} (handOff : HandOff server)
    (moves : ProcessMoves config server next) :
    next.terminated ≠ none ∨
      (server.isAddingQueue = false ∧ next.isAddingQueue = false) ∨
      (server.isAddingQueue = true ∧ next.receiveRank < server.receiveRank) := by
  unfold Server.receiveRank
  cases isSet : server.isAddingQueue with
  | false =>
      cases moves with
      | frontOfEmpty | popOfEmpty | checkFails | encryptFails =>
          exact .inl (by simp [terminate])
      | clearFlag => exact .inr (.inl ⟨rfl, rfl⟩)
      | _ => exact .inr (.inl ⟨rfl, isSet⟩)
  | true =>
      cases moves with
      | frontOfEmpty | popOfEmpty | checkFails | encryptFails =>
          exact .inl (by simp [terminate])
      | spin place isClear => cases isSet.symm.trans isClear
      | goBack place empty =>
          exact absurd empty
            (handOff.queue_ne_nil (by rw [place]; trivial) (by rw [place]; rfl))
      | clearFlag place =>
          refine .inr (.inr ⟨rfl, ?_⟩)
          simp [place, ProcessThread.untilClear]
      | _ place =>
          refine .inr (.inr ⟨rfl, ?_⟩)
          simp [place, ProcessThread.untilClear, isSet, send]

/-- Something that the receive thread has to do, and a count of how often it was
done: the thread can move, no other step touches either, and its own steps leave
both alone until the count goes up. -/
structure Pending (config : Config Peer) (count : Server Peer → Nat)
    (pending : Server Peer → Prop) : Prop where
  canMove : ∀ server, pending server → server.wait.Reads → server.inbox ≠ []
  arrive : ∀ server message, pending server →
    pending (server.arrive message) ∧ count (server.arrive message) = count server
  waitRequest : ∀ server next, pending server → WaitMoves config server next →
    count server < count next ∨ next.terminated ≠ none ∨
      (next = server ∧ server.wait.testsFlag = true ∧ server.isAddingQueue = true) ∨
      (pending next ∧ count next = count server ∧ next.receiveRank < server.receiveRank)
  processRequest : ∀ server next, pending server → ProcessMoves config server next →
    pending next ∧ count next = count server

theorem bringsReceive_of_same {server next : Server Peer} (wait : next.wait = server.wait)
    (isAddingQueue : next.isAddingQueue = server.isAddingQueue) :
    next.bringsReceive = server.bringsReceive := by
  unfold bringsReceive
  rw [wait, isAddingQueue]

theorem exists_step (config : Config Peer) {server : Server Peer}
    (alive : server.terminated = none) (who : Step Peer)
    (canMove : who = .waitRequest → server.wait.Reads → server.inbox ≠ []) :
    ∃ next, (system config).step server who = some next := by
  cases who with
  | arrive message => exact ⟨server.arrive message, by simp [system, alive]⟩
  | waitRequest =>
      rw [step_waitRequest alive]
      exact exists_waitStep (canMove rfl)
  | processRequest =>
      rw [step_processRequest alive]
      exact exists_processStep server

/-- Something pending that was done so often. -/
def Waiting (config : Config Peer) (count : Server Peer → Nat) (pending : Server Peer → Prop)
    (reached : Nat) (server : Server Peer) : Prop :=
  (system config).Reachable server ∧ pending server ∧ reached ≤ count server

section

variable {count : Server Peer → Nat} {pending : Server Peer → Prop} {reached : Nat}
  {server : Server Peer}

theorem Pending.keeps (isPending : Pending config count pending) {who : Step Peer}
    (waiting : Waiting config count pending reached server)
    (away : ¬ (server.terminated ≠ none ∨ reached < count server)) :
    ((system config).advance server who).terminated ≠ none ∨
      reached < count ((system config).advance server who) ∨
      (Waiting config count pending reached ((system config).advance server who) ∧
        (((system config).advance server who).receiveRank < server.receiveRank ∨
          (((system config).advance server who).receiveRank = server.receiveRank ∧
            ((system config).advance server who).bringsReceive = server.bringsReceive))) := by
  obtain ⟨reachable, waits, notBelow⟩ := waiting
  have alive : server.terminated = none := by
    by_contra ended
    exact away (.inl ended)
  unfold TransitionSystem.advance
  cases taken : (system config).step server who with
  | none => exact .inr (.inr ⟨⟨reachable, waits, notBelow⟩, .inr ⟨rfl, rfl⟩⟩)
  | some next =>
      have later := reachable.next taken
      simp only [Option.getD_some]
      rcases step_cases taken with ⟨-, ⟨message, -, rfl⟩ | ⟨-, moves⟩ | ⟨-, processes⟩⟩
      · obtain ⟨kept, same⟩ := isPending.arrive server message waits
        exact .inr (.inr ⟨⟨later, kept, by omega⟩, .inr ⟨rfl, rfl⟩⟩)
      · rcases isPending.waitRequest server next waits moves with
          more | ended | ⟨rfl, -, -⟩ | ⟨kept, same, lower⟩
        · exact .inr (.inl (by omega))
        · exact .inl ended
        · exact .inr (.inr ⟨⟨reachable, waits, notBelow⟩, .inr ⟨rfl, rfl⟩⟩)
        · exact .inr (.inr ⟨⟨later, kept, by omega⟩, .inl lower⟩)
      · obtain ⟨kept, same⟩ := isPending.processRequest server next waits processes
        rcases processes.receiveRank (handOff_of_reachable reachable alive) with
          ended | ⟨isClear, staysClear⟩ | ⟨-, lower⟩
        · exact .inl ended
        · have place := processes.leavesReceive.wait
          refine .inr (.inr ⟨⟨later, kept, by omega⟩, .inr ⟨?_, ?_⟩⟩)
          · simp [receiveRank, place, isClear, staysClear]
          · exact bringsReceive_of_same place (staysClear.trans isClear.symm)
        · exact .inr (.inr ⟨⟨later, kept, by omega⟩, .inl lower⟩)

theorem Pending.helps (isPending : Pending config count pending)
    (waiting : Waiting config count pending reached server)
    (away : ¬ (server.terminated ≠ none ∨ reached < count server)) :
    ((system config).advance server server.bringsReceive).terminated ≠ none ∨
      reached < count ((system config).advance server server.bringsReceive) ∨
      ((system config).advance server server.bringsReceive).receiveRank < server.receiveRank := by
  obtain ⟨reachable, waits, notBelow⟩ := waiting
  have alive : server.terminated = none := by
    by_contra ended
    exact away (.inl ended)
  obtain ⟨next, taken⟩ := exists_step config alive server.bringsReceive
    fun _ => isPending.canMove server waits
  unfold TransitionSystem.advance
  rw [taken, Option.getD_some]
  unfold bringsReceive at taken
  split_ifs at taken with stuck
  · rw [Bool.and_eq_true] at stuck
    rcases step_cases taken with ⟨-, ⟨message, other, -⟩ | ⟨other, -⟩ | ⟨-, processes⟩⟩
    · cases other
    · cases other
    · rcases processes.receiveRank (handOff_of_reachable reachable alive) with
        ended | ⟨isClear, -⟩ | ⟨-, lower⟩
      · exact .inl ended
      · cases stuck.2.symm.trans isClear
      · exact .inr (.inr lower)
  · rcases step_cases taken with ⟨-, ⟨message, other, -⟩ | ⟨-, moves⟩ | ⟨other, -⟩⟩
    · cases other
    · rcases isPending.waitRequest server next waits moves with
        more | ended | ⟨-, tests, isSet⟩ | ⟨-, -, lower⟩
      · exact .inr (.inl (by omega))
      · exact .inl ended
      · exact absurd (by rw [tests, isSet]; rfl) stuck
      · exact .inr (.inr lower)
    · cases other

/-- What is pending is done, as long as no exception escapes. -/
def Pending.approach (isPending : Pending config count pending) (reached : Nat) :
    TransitionSystem.Approach (system config) Thread (Waiting config count pending reached)
      (fun server => server.terminated ≠ none ∨ reached < count server) where
  rank := receiveRank
  helpful := bringsReceive
  isChosen server _ _ := by
    unfold bringsReceive Thread
    split_ifs
    · exact .inr rfl
    · exact .inl rfl
  keeps _ _ waiting away := or_assoc.mpr (isPending.keeps waiting away)
  helps _ waiting away := or_assoc.mpr (isPending.helps waiting away)

end

/-- There are frames to read. -/
theorem pending_frames (config : Config Peer) :
    Pending config (fun server => server.received.length) (fun server => server.inbox ≠ []) where
  canMove _ waiting _ := waiting
  arrive server message waiting := ⟨by simp [Server.arrive, waiting], rfl⟩
  waitRequest server next waiting moves := by
    rcases moves.receiveRank with ⟨frame, -, more⟩ | ended | stuck | ⟨inbox, received, lower⟩
    · left
      simp [more]
    · exact .inr (.inl ended)
    · exact .inr (.inr (.inl stuck))
    · exact .inr (.inr (.inr ⟨by rw [inbox]; exact waiting, by rw [received], lower⟩))
  processRequest server next waiting moves := by
    have leaves := moves.leavesReceive
    exact ⟨by rw [leaves.inbox]; exact waiting, by rw [leaves.received]⟩

/-- There is a request to push. -/
theorem pending_request (config : Config Peer) :
    Pending config (fun server => server.pushed.length)
      (fun server => server.wait.HoldsRequest) where
  canMove server holds reads := by
    cases place : server.wait <;> rw [place] at holds reads <;>
      first | exact holds.elim | exact reads.elim
  arrive _ _ holds := ⟨holds, rfl⟩
  waitRequest server next holds moves := by
    cases moves with
    | spin place isSet => exact .inr (.inr (.inl ⟨rfl, by rw [place]; rfl, isSet⟩))
    | seeClear place isClear =>
        refine .inr (.inr (.inr ⟨trivial, rfl, ?_⟩))
        simp [receiveRank, place, isClear, WaitThread.untilReceive]
    | push place =>
        left
        simp
    | _ place =>
        rw [place] at holds
        exact holds.elim
  processRequest server next holds moves := by
    have leaves := moves.leavesReceive
    exact ⟨by rw [leaves.wait]; exact holds, by rw [leaves.pushed]⟩

/-! ### The processing thread -/

/-- A step of the receive thread leaves the processing thread where it is, and
the flag alone, or sets it. -/
theorem WaitMoves.replyRank {server next : Server Peer} (moves : WaitMoves config server next) :
    next.replyRank < server.replyRank ∨
      (next.replyRank = server.replyRank ∧ next.bringsReply = server.bringsReply) := by
  unfold Server.replyRank bringsReply
  cases moves with
  | setFlag place =>
      by_cases idle : server.process = .testFlag ∧ server.isAddingQueue = false
      · left
        simp [idle, ProcessThread.remaining]
      · right
        simp [idle]
  | _ => exact .inr ⟨rfl, rfl⟩

/-- A step of the processing thread sends a result, fails, finds the flag clear,
or lowers its rank. -/
theorem ProcessMoves.replyRank {server next : Server Peer} (handOff : HandOff server)
    (moves : ProcessMoves config server next) :
    server.replied.length < next.replied.length ∨ next.terminated ≠ none ∨
      (next = server ∧ server.process = .testFlag ∧ server.isAddingQueue = false) ∨
      (next.replied = server.replied ∧ next.replyRank < server.replyRank) := by
  unfold Server.replyRank
  cases moves with
  | spin place isClear => exact .inr (.inr (.inl ⟨rfl, place, isClear⟩))
  | frontOfEmpty | popOfEmpty | checkFails | encryptFails =>
      exact .inr (.inl (by simp [terminate]))
  | goBack place empty =>
      exact absurd empty (handOff.queue_ne_nil (by rw [place]; trivial) (by rw [place]; rfl))
  | sendResult place =>
      left
      simp
  | seeSet place isSet =>
      refine .inr (.inr (.inr ⟨rfl, ?_⟩))
      simp [place, isSet, ProcessThread.remaining]
  | _ place =>
      refine .inr (.inr (.inr ⟨rfl, ?_⟩))
      simp [place, ProcessThread.remaining, send]

/-- While the processing thread waits for the flag and a request is not replied
to, the receive thread is about to set it. -/
theorem HandOff.about_to_set {server : Server Peer} (handOff : HandOff server)
    (waits : server.process = .testFlag) (isClear : server.isAddingQueue = false)
    (owed : server.replied.length < server.pushed.length) :
    ∃ session message, server.wait = .setFlag session message := by
  have pushedLength := congrArg List.length handOff.pushed
  have poppedLength := congrArg List.length handOff.popped
  rw [waits] at poppedLength
  simp only [ProcessThread.inHand, List.append_nil, List.length_map] at poppedLength
  rw [List.length_append, poppedLength, (handOff.clear isClear).2] at pushedLength
  cases place : server.wait with
  | setFlag session message => exact ⟨session, message, rfl⟩
  | _ =>
      rw [place] at pushedLength
      simp only [WaitThread.unannounced] at pushedLength
      omega

/-- A request is on its way to its reply. -/
def Owed (config : Config Peer) (reached : Nat) (server : Server Peer) : Prop :=
  (system config).Reachable server ∧ reached < server.pushed.length ∧
    reached ≤ server.replied.length

theorem owed_keeps {reached : Nat} {server : Server Peer} {who : Step Peer}
    (owed : Owed config reached server)
    (away : ¬ (server.terminated ≠ none ∨ reached < server.replied.length)) :
    ((system config).advance server who).terminated ≠ none ∨
        reached < ((system config).advance server who).replied.length ∨
      (Owed config reached ((system config).advance server who) ∧
        (((system config).advance server who).replyRank < server.replyRank ∨
          (((system config).advance server who).replyRank = server.replyRank ∧
            ((system config).advance server who).bringsReply = server.bringsReply))) := by
  obtain ⟨reachable, owes, notBelow⟩ := owed
  have alive : server.terminated = none := by
    by_contra ended
    exact away (.inl ended)
  unfold TransitionSystem.advance
  cases taken : (system config).step server who with
  | none => exact .inr (.inr ⟨⟨reachable, owes, notBelow⟩, .inr ⟨rfl, rfl⟩⟩)
  | some next =>
      have later := reachable.next taken
      simp only [Option.getD_some]
      rcases step_cases taken with ⟨-, ⟨message, -, rfl⟩ | ⟨-, waits⟩ | ⟨-, processes⟩⟩
      · exact .inr (.inr ⟨⟨later, owes, notBelow⟩, .inr ⟨rfl, rfl⟩⟩)
      · have grows : server.pushed.length ≤ next.pushed.length := by
          cases waits with
          | push => simp
          | _ => exact Nat.le_refl _
        have stays := waits.leavesProcess.replied
        exact .inr (.inr ⟨⟨later, by omega, by rw [stays]; exact notBelow⟩, waits.replyRank⟩)
      · have pushed := processes.leavesReceive.pushed
        rcases processes.replyRank (handOff_of_reachable reachable alive) with
          more | ended | ⟨rfl, -, -⟩ | ⟨same, lower⟩
        · exact .inr (.inl (by omega))
        · exact .inl ended
        · exact .inr (.inr ⟨⟨reachable, owes, notBelow⟩, .inr ⟨rfl, rfl⟩⟩)
        · exact .inr (.inr ⟨⟨later, by rw [pushed]; exact owes, by rw [same]; exact notBelow⟩,
            .inl lower⟩)

theorem owed_helps {reached : Nat} {server : Server Peer} (owed : Owed config reached server)
    (away : ¬ (server.terminated ≠ none ∨ reached < server.replied.length)) :
    ((system config).advance server server.bringsReply).terminated ≠ none ∨
      reached < ((system config).advance server server.bringsReply).replied.length ∨
      ((system config).advance server server.bringsReply).replyRank < server.replyRank := by
  obtain ⟨reachable, owes, notBelow⟩ := owed
  have alive : server.terminated = none := by
    by_contra ended
    exact away (.inl ended)
  have handOff := handOff_of_reachable reachable alive
  unfold TransitionSystem.advance bringsReply
  split_ifs with idle
  · have unreplied : ¬ reached < server.replied.length := fun replied => away (.inr replied)
    obtain ⟨session, message, place⟩ := handOff.about_to_set idle.1 idle.2 (by omega)
    have taken : (system config).step server .waitRequest =
        some { server with isAddingQueue := true, wait := .recvIdentity } := by
      rw [step_waitRequest alive]
      simp only [waitStep, place]
    rw [taken, Option.getD_some]
    right; right
    simp [Server.replyRank, idle, ProcessThread.remaining]
  · obtain ⟨next, taken⟩ := exists_step config alive .processRequest
      fun other => by cases other
    rw [taken, Option.getD_some]
    rcases step_cases taken with ⟨-, ⟨message, other, -⟩ | ⟨other, -⟩ | ⟨-, processes⟩⟩
    · cases other
    · cases other
    · rcases processes.replyRank handOff with more | ended | ⟨-, waits, isClear⟩ | ⟨-, lower⟩
      · exact .inr (.inl (by omega))
      · exact .inl ended
      · exact absurd ⟨waits, isClear⟩ idle
      · exact .inr (.inr lower)

/-- A request that is owed a reply gets it, as long as no exception escapes. -/
def owedApproach (config : Config Peer) (reached : Nat) :
    TransitionSystem.Approach (system config) Thread (Owed config reached)
      (fun server => server.terminated ≠ none ∨ reached < server.replied.length) where
  rank := replyRank
  helpful := bringsReply
  isChosen server _ _ := by
    unfold bringsReply Thread
    split_ifs
    · exact .inl rfl
    · exact .inr rfl
  keeps _ _ owed away := or_assoc.mpr (owed_keeps owed away)
  helps _ owed away := or_assoc.mpr (owed_helps owed away)

/-! ### Whole runs -/

theorem wire_prefix {messages later : List (Message Peer)} (before : messages <+: later) :
    wire messages <+: wire later := by
  obtain ⟨rest, rfl⟩ := before
  rw [wire_append]
  exact List.prefix_append _ _

/-- What has happened stays so. -/
structure Before (server next : Server Peer) : Prop where
  arrived : server.arrived <+: next.arrived
  received : server.received <+: next.received
  pushed : server.pushed <+: next.pushed
  replied : server.replied <+: next.replied

theorem before_of_step {server next : Server Peer} {who : Step Peer}
    (taken : (system config).step server who = some next) : Before server next := by
  have refl {Value : Type} (values : List Value) : values <+: values := List.prefix_refl values
  rcases step_cases taken with ⟨-, ⟨message, -, rfl⟩ | ⟨-, waits⟩ | ⟨-, processes⟩⟩
  · exact ⟨List.prefix_append _ _, refl _, refl _, refl _⟩
  · cases waits with
    | recvIdentity | refuse | greet | recvSpub | recvEpub | recvDummy | recvClientID =>
        exact ⟨refl _, List.prefix_append _ _, refl _, refl _⟩
    | push => exact ⟨refl _, refl _, List.prefix_append _ _, refl _⟩
    | _ => exact ⟨refl _, refl _, refl _, refl _⟩
  · cases processes with
    | sendResult => exact ⟨refl _, refl _, refl _, List.prefix_append _ _⟩
    | _ => exact ⟨refl _, refl _, refl _, refl _⟩

theorem before_of_le (config : Config Peer) (schedule : Nat → Step Peer) (start : Server Peer)
    {time later : Nat} (after : time ≤ later) :
    Before ((system config).trace schedule start time)
      ((system config).trace schedule start later) := by
  have steps : ∀ server who next, (system config).step server who = some next →
      Before server next := fun _ _ _ taken => before_of_step taken
  apply TransitionSystem.trace_mono _ _ steps schedule start after
  · intro server
    exact ⟨List.prefix_refl _, List.prefix_refl _, List.prefix_refl _, List.prefix_refl _⟩
  · intro first second third early late
    exact ⟨early.arrived.trans late.arrived, early.received.trans late.received,
      early.pushed.trans late.pushed, early.replied.trans late.replied⟩

section

variable {start : Server Peer} {schedule : Nat → Step Peer}

/-- What is pending whenever its count is below a target gets done that often. -/
theorem Pending.reaches {count : Server Peer → Nat} {pending : Server Peer → Prop}
    (isPending : Pending config count pending) (reached : (system config).Reachable start)
    (fair : TransitionSystem.FairTo Thread schedule)
    (alive : ∀ time, ((system config).trace schedule start time).terminated = none)
    {time target : Nat}
    (waits : ∀ later ≥ time, count ((system config).trace schedule start later) < target →
      pending ((system config).trace schedule start later)) :
    ∃ later ≥ time, target ≤ count ((system config).trace schedule start later) := by
  apply TransitionSystem.reaches_count
  intro next notBefore below
  obtain ⟨later, after, ended | more⟩ := (isPending.approach _).eventually fair next
    ⟨reached.trace schedule next, waits next notBefore below, Nat.le_refl _⟩
  · exact absurd (alive later) ended
  · exact ⟨later, after, more⟩

/-- Every pushed request is replied to. -/
theorem replied_reaches (reached : (system config).Reachable start)
    (fair : TransitionSystem.FairTo Thread schedule)
    (alive : ∀ time, ((system config).trace schedule start time).terminated = none) (time : Nat) :
    ∃ later ≥ time, ((system config).trace schedule start time).pushed.length ≤
      ((system config).trace schedule start later).replied.length := by
  refine TransitionSystem.reaches_count fun next notBefore below => ?_
  have pushed := (before_of_le config schedule start notBefore).pushed.length_le
  obtain ⟨later, after, ended | more⟩ := (owedApproach config _).eventually fair next
    ⟨reached.trace schedule next, Nat.lt_of_lt_of_le below pushed, Nat.le_refl _⟩
  · exact absurd (alive later) ended
  · exact ⟨later, after, more⟩

/-- Every frame that has arrived is read. -/
theorem received_reaches (lawful : config.lib.Lawful) (reached : (system config).Reachable start)
    (fair : TransitionSystem.FairTo Thread schedule)
    (alive : ∀ time, ((system config).trace schedule start time).terminated = none) (time : Nat) :
    ∃ later ≥ time, wire ((system config).trace schedule start time).arrived <+:
      ((system config).trace schedule start later).received := by
  have parts (later : Nat) (after : time ≤ later) :
      wire ((system config).trace schedule start time).arrived <+:
        ((system config).trace schedule start later).received ++
          ((system config).trace schedule start later).inbox := by
    rw [(simulates_of_reachable lawful (reached.trace schedule later)).inbox]
    exact wire_prefix (before_of_le config schedule start after).arrived
  obtain ⟨later, after, all⟩ := (pending_frames config).reaches reached fair alive
    (fun later after below empty => by
      have length := (parts later after).length_le
      rw [empty, List.append_nil] at length
      exact absurd below (Nat.not_lt_of_le length))
  exact ⟨later, after, List.prefix_of_prefix_length_le (parts later after)
    (List.prefix_append _ _) all⟩

theorem unpushed_of_not_holds {wait : WaitThread Peer} (none : ¬ wait.HoldsRequest) :
    unpushed config wait = [] := by
  cases wait with
  | testFlag | push => exact absurd trivial none
  | _ => rfl

/-- What the receive loop pushes over the frames read so far, the thread has
pushed or holds. -/
theorem calledFor_prefix (lawful : config.lib.Lawful) {server : Server Peer}
    (reached : (system config).Reachable server) {messages : List (Message Peer)}
    (read : wire messages <+: server.received) :
    ReceiveLoop.pushedRequests (ReceiveLoop.effects config.network (keyExchange config) messages) <+:
      server.pushed.map Queued.login ++ unpushed config server.wait := by
  obtain ⟨rest, same⟩ := read
  rw [← (simulates_of_reachable lawful reached).pushed, ← same, Transducer.outputs_append,
    ReceiveLoop.pushedRequests_append]
  exact List.prefix_append _ _

/-- Every request that the frames read so far call for is pushed. -/
theorem pushed_reaches (lawful : config.lib.Lawful) (reached : (system config).Reachable start)
    (fair : TransitionSystem.FairTo Thread schedule)
    (alive : ∀ time, ((system config).trace schedule start time).terminated = none) {time : Nat}
    {messages : List (Message Peer)}
    (read : wire messages <+: ((system config).trace schedule start time).received) :
    ∃ later ≥ time,
      ReceiveLoop.pushedRequests
          (ReceiveLoop.effects config.network (keyExchange config) messages) <+:
        ((system config).trace schedule start later).pushed.map Queued.login := by
  have parts (later : Nat) (after : time ≤ later) := calledFor_prefix lawful
    (reached.trace schedule later) (read.trans (before_of_le config schedule start after).received)
  obtain ⟨later, after, all⟩ := (pending_request config).reaches reached fair alive
    (fun later after below => by
      by_contra none
      have length := (parts later after).length_le
      rw [unpushed_of_not_holds none, List.append_nil, List.length_map] at length
      exact absurd below (Nat.not_lt_of_le length))
  exact ⟨later, after, List.prefix_of_prefix_length_le (parts later after)
    (List.prefix_append _ _) (by rw [List.length_map]; exact all)⟩

/-- Under a schedule that lets both threads move again and again, an exception
escapes at some time, or everything goes through: whatever has arrived by some
time is read later, and every request that the receive loop makes of it is
replied to in turn, whatever else arrives meanwhile. -/
theorem requests_replied_or_ended (lawful : config.lib.Lawful)
    (reached : (system config).Reachable start) (fair : TransitionSystem.FairTo Thread schedule) :
    (∃ time, ((system config).trace schedule start time).terminated ≠ none) ∨
      ∀ time, ∃ later ≥ time,
        wire ((system config).trace schedule start time).arrived <+:
            ((system config).trace schedule start later).received ∧
          ReceiveLoop.pushedRequests (ReceiveLoop.effects config.network (keyExchange config)
              ((system config).trace schedule start time).arrived) <+:
            ((system config).trace schedule start later).replied.map
              fun sealed => sealed.queued.login := by
  by_cases ends : ∃ time, ((system config).trace schedule start time).terminated ≠ none
  · exact .inl ends
  right
  intro time
  have alive (time : Nat) : ((system config).trace schedule start time).terminated = none := by
    by_contra ended
    exact ends ⟨time, ended⟩
  obtain ⟨second, afterFirst, read⟩ := received_reaches lawful reached fair alive time
  obtain ⟨third, afterSecond, pushed⟩ := pushed_reaches lawful reached fair alive read
  obtain ⟨later, afterThird, length⟩ := replied_reaches reached fair alive third
  refine ⟨later, by omega, read.trans (before_of_le config schedule start (by omega)).received, ?_⟩
  -- what is replied to is a front part of what is pushed
  have handOff := handOff_of_reachable (reached.trace schedule later) (alive later)
  have replied : ((system config).trace schedule start later).replied.map Sealed.queued <+:
      ((system config).trace schedule start later).pushed := by
    rw [handOff.pushed, handOff.popped, List.append_assoc]
    exact List.prefix_append _ _
  have earlier := (before_of_le config schedule start afterThird).pushed
  have inTurn : ((system config).trace schedule start third).pushed <+:
      ((system config).trace schedule start later).replied.map Sealed.queued :=
    List.prefix_of_prefix_length_le earlier replied (by rw [List.length_map]; exact length)
  have logins := inTurn.map Queued.login
  rw [List.map_map] at logins
  exact pushed.trans logins

end

/-- The two threads move by turns. -/
def byTurns (time : Nat) : Step Peer := if time % 2 = 0 then .waitRequest else .processRequest

theorem fair_byTurns : TransitionSystem.FairTo Thread (byTurns : Nat → Step Peer) := by
  intro who isThread time
  rcases isThread with rfl | rfl
  · exact ⟨2 * time, by omega, by simp [byTurns]⟩
  · exact ⟨2 * time + 1, by omega, by simp [byTurns, Nat.add_mod]⟩

/-- The threads go on by turns after one client's messages. -/
theorem requests_replied_or_ended_one_session : ∃ start : Server Bool,
    start.process =
        .pop ⟨⟨ascii "peer A", ascii "TESTING_CLIENT", ascii "127.0.0.1"⟩, 0⟩ ∧
      ((∃ time, ((system sampleConfig).trace byTurns start time).terminated ≠ none) ∨
        ∀ time, ∃ later ≥ time,
          wire ((system sampleConfig).trace byTurns start time).arrived <+:
              ((system sampleConfig).trace byTurns start later).received ∧
            ReceiveLoop.pushedRequests
                (ReceiveLoop.effects sampleConfig.network (keyExchange sampleConfig)
                  ((system sampleConfig).trace byTurns start time).arrived) <+:
              ((system sampleConfig).trace byTurns start later).replied.map
                fun sealed => sealed.queued.login) := by
  obtain ⟨start, ran, -, stands⟩ := oneSession_pushes
  have boots : (system sampleConfig).Reachable (boot .initial) := .start ⟨.initial, rfl⟩
  have lawful : sampleConfig.lib.Lawful := Reference.library_lawful
  exact ⟨start, stands, requests_replied_or_ended lawful (boots.of_run ran) fair_byTurns⟩

end Server

end LicensingServer
