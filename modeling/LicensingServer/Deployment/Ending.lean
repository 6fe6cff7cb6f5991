import LicensingServer.Deployment.Service
import LicensingServer.Foundations.Fairness

/-!
Owns what clients that take turns get in the end, however the threads of the
server and the clients are scheduled and whenever the tables change: all return,
unless the check of one of them reads an individual license and ends the process,
and what each returns is what the tables say at a moment of its own session.

Does not own clients that overlap.
-/

set_option autoImplicit false

namespace LicensingServer

open LicensingServer.Foundations

namespace Service

variable {n : Nat} {clientele : Clientele n}

/-! ### How the process ends -/

/-- The outcomes of the checks up to this one, of which none throws, are those of
regular parties. -/
theorem Recorded.orderly_check (regular : Regular clientele) {service : Service n}
    (recorded : Recorded clientele service) (answered : Answered service) (isValid : Bool) :
    (clientele.parties (service.deployment.answers ++ [.ok isValid])).Regular
        (resultFor (service.deployment.answers ++ [.ok isValid])) ∧
      (clientele.parties (service.deployment.answers ++ [.ok isValid])).Orderly
        (resultFor (service.deployment.answers ++ [.ok isValid])) service.toWorld := by
  have all : Answered (n := n) { service with
      deployment := { service.deployment with
        answers := service.deployment.answers ++ [.ok isValid] } } := by
    intro answer member
    rcases List.mem_append.mp member with earlier | last
    · exact answered answer earlier
    · exact ⟨isValid, List.mem_singleton.mp last⟩
  have regularThen := regular.parties all
  exact ⟨regularThen, Parties.orderly_of_reachable regularThen
    (parties_reachable_of_agree (recorded.agree _) recorded.world (Nat.le_refl _))⟩

/-- The process is at the check of a client whose selected license is an
individual one. -/
def ReadsIndividual (clientele : Clientele n) (service : Service n) (i : Fin n) : Prop :=
  ∃ req, service.deployment.server.process = .check req ∧
    req.login.clientID = clientele.clientID i ∧
    Authorization.ReadsLicense individualLicense service.moment.tables service.moment.now
      (clientele.clientID i)

/-- Only such a check ends the process. -/
theorem readsIndividual_of_terminates (regular : Regular clientele) {service next : Service n}
    {label : ServiceStep n} (reached : (system clientele).Reachable service)
    (alive : service.deployment.server.terminated = none)
    (taken : (system clientele).step service label = some next)
    (ended : next.deployment.server.terminated ≠ none) :
    label = .turn .processRequest ∧ ∃ i, ReadsIndividual clientele service i := by
  have recorded := recorded_of_reachable reached
  have answered := answered_of_reachable reached alive
  have orderly := orderly_of_reachable regular reached alive
  cases proceeds_of_step taken with
  | administer moment => exact absurd alive ended
  | quiet unchecked moved =>
      exact absurd (orderly.next (regular.parties answered) moved).alive ended
  | @check req answer server database world place called checked moved =>
      refine ⟨rfl, ?_⟩
      obtain ⟨i, -, owner, -, -⟩ := checks_turn regular reached alive place
      refine ⟨i, req, place, owner, ?_⟩
      cases answer with
      | ok isValid =>
          obtain ⟨regularThen, orderlyThen⟩ := recorded.orderly_check regular answered isValid
          have moves : (clientele.parties (service.deployment.answers ++ [.ok isValid])).system.step
              service.toWorld .processRequest = some ⟨server, service.clients⟩ :=
            congrArg (Option.map fun server => World.mk server service.clients) moved
          exact absurd (orderlyThen.next regularThen moves).alive ended
      | error what =>
          rw [← owner, ← Authorization.answer_throws_iff service.moment req.login]
          exact ⟨what, (recorded.called called).1.symm⟩

/-! ### How much is left to do -/

/-- A step leaves the parties as they are, or lowers their rank, or ends the
process. -/
theorem rank_of_step (regular : Regular clientele) {service next : Service n}
    {label : ServiceStep n} (reached : (system clientele).Reachable service)
    (alive : service.deployment.server.terminated = none)
    (taken : (system clientele).step service label = some next) :
    next.deployment.server.terminated ≠ none ∨
      Parties.rank next.toWorld < Parties.rank service.toWorld ∨
      (next.toWorld = service.toWorld ∧
        next.deployment.answers = service.deployment.answers) := by
  have recorded := recorded_of_reachable reached
  have answered := answered_of_reachable reached alive
  have orderly := orderly_of_reachable regular reached alive
  cases proceeds_of_step taken with
  | administer moment => exact .inr (.inr ⟨rfl, rfl⟩)
  | @quiet who world unchecked moved =>
      rcases orderly.descends (regular.parties answered) who with same | lower
      · rw [TransitionSystem.advance_of_step moved] at same
        exact .inr (.inr ⟨same, rfl⟩)
      · rw [TransitionSystem.advance_of_step moved] at lower
        exact .inr (.inl lower)
  | @check req answer server database world place called checked moved =>
      by_cases goesOn : server.terminated = none
      · obtain ⟨isValid, rfl⟩ := recorded.returns place moved goesOn
        obtain ⟨regularThen, orderlyThen⟩ := recorded.orderly_check regular answered isValid
        have moves : (clientele.parties (service.deployment.answers ++ [.ok isValid])).system.step
            service.toWorld .processRequest = some ⟨server, service.clients⟩ :=
          congrArg (Option.map fun server => World.mk server service.clients) moved
        rcases orderlyThen.descends regularThen .processRequest with same | lower
        · rw [TransitionSystem.advance_of_step moves] at same
          have unchecked := congrArg (fun world => world.server.checked) same
          change server.checked = service.deployment.server.checked at unchecked
          rw [checked] at unchecked
          exact absurd unchecked (by simp)
        · rw [TransitionSystem.advance_of_step moves] at lower
          exact .inr (.inl lower)
      · exact .inl goesOn

/-- A check is always made to its end. -/
theorem exists_check_step {service : Service n} (recorded : Recorded clientele service)
    (alive : service.deployment.server.terminated = none) {req : Queued}
    (place : service.deployment.server.process = .check req) :
    ∃ next, (system clientele).step service (.turn .processRequest) = some next ∧
      next.deployment.server.checked = service.deployment.server.checked ++ [req] := by
  obtain ⟨database, left, called, -, -⟩ := Authorization.call_value service.moment req.login
    service.deployment.world recorded.options recorded.db
  obtain ⟨after, steps⟩ : ∃ after, service.deployment.server.processStep
      (clientele.site.config (Server.recorded (service.deployment.answers ++
        [Authorization.answer service.moment req.login]))) = some after :=
    Server.exists_processStep _
  have stepped : (Server.system (clientele.site.config (Server.recorded
      (service.deployment.answers ++ [Authorization.answer service.moment req.login])))).step
      service.deployment.server .processRequest = some after := by
    rw [Server.step_processRequest alive]
    exact steps
  refine ⟨⟨⟨after, database, left, service.deployment.answers ++
    [Authorization.answer service.moment req.login]⟩, service.clients⟩, ?_, ?_⟩
  · change service.threadStep clientele .processRequest = _
    rw [threadStep, Deployment.step_check place, Deployment.callCheck]
    change Option.map _ (Option.bind (Authorization.call service.moment req.login
      service.deployment.database service.deployment.world) _) = _
    rw [called, Option.bind_some]
    simp only [stepped, Option.map_some]
  · rcases Server.step_checked stepped with ⟨-, elsewhere⟩ | ⟨other, otherPlace, -, more⟩
    · exact absurd place (elsewhere rfl req)
    · rw [place] at otherPlace
      obtain rfl := ProcessThread.check.inj otherPlace
      exact more

/-- A thread that is not at a check moves as it does under the recorded answers. -/
theorem threadStep_elsewhere {service : Service n} {who : Step (Fin n)} {server : Server (Fin n)}
    (elsewhere : who = .processRequest → ∀ req, service.deployment.server.process ≠ .check req)
    (moved : (Server.system (clientele.site.config
      (Server.recorded service.deployment.answers))).step service.deployment.server who =
        some server) :
    service.threadStep clientele who =
      some { service with deployment := { service.deployment with server } } := by
  rw [threadStep, Deployment.step_elsewhere elsewhere, moved]
  rfl

/-- A party that can move under the recorded answers can move. -/
theorem exists_step {service : Service n} (recorded : Recorded clientele service) {who : Turn n}
    {world : World n} (moves : (clientele.parties service.deployment.answers).system.step
      service.toWorld who = some world) :
    ∃ next, (system clientele).step service (.turn who) = some next ∧
      (next.toWorld = world ∨ ∃ req,
        next.deployment.server.checked = service.deployment.server.checked ++ [req]) := by
  cases who with
  | waitRequest =>
      obtain ⟨server, moved, rfl⟩ := Option.map_eq_some_iff.mp moves
      refine ⟨_, threadStep_elsewhere ?_ moved, .inl rfl⟩
      intro same
      cases same
  | client i =>
      refine ⟨⟨{ service.deployment with server := world.server }, world.clients⟩, ?_, .inl rfl⟩
      exact congrArg (Option.map _) moves
  | processRequest =>
      obtain ⟨server, moved, rfl⟩ := Option.map_eq_some_iff.mp moves
      by_cases checks : ∃ req, service.deployment.server.process = .check req
      · rcases checks with ⟨req, place⟩
        obtain ⟨next, taken, more⟩ :=
          exists_check_step recorded (Server.step_cases moved).1 place
        exact ⟨next, taken, .inr ⟨req, more⟩⟩
      · exact ⟨_, threadStep_elsewhere (fun _ req place => checks ⟨req, place⟩) moved, .inl rfl⟩

/-- The turn of a party that lowers the rank of the others, where there is one. -/
noncomputable def helpfulTurn (clientele : Clientele n) (answers : List (Except Exception Bool))
    (world : World n) : Turn n :=
  @Classical.epsilon _ ⟨.waitRequest⟩ fun who =>
    Parties.rank ((clientele.parties answers).system.advance world who) < Parties.rank world

/-- All clients have returned. -/
def AllReturned (service : Service n) : Prop :=
  ∀ i, ∃ isValid, (service.clients i).thread = .returned isValid

theorem helpfulTurn_lowers (regular : Regular clientele) {service : Service n}
    (reached : (system clientele).Reachable service)
    (alive : service.deployment.server.terminated = none) (unserved : ¬ AllReturned service) :
    Parties.rank ((clientele.parties service.deployment.answers).system.advance service.toWorld
      (helpfulTurn clientele service.deployment.answers service.toWorld)) <
        Parties.rank service.toWorld := by
  have answered := answered_of_reachable reached alive
  have orderly := orderly_of_reachable regular reached alive
  apply @Classical.epsilon_spec _ (fun who => Parties.rank ((clientele.parties
    service.deployment.answers).system.advance service.toWorld who) < Parties.rank service.toWorld)
  apply orderly.helpful (regular.parties answered)
  intro done
  apply unserved
  intro i
  exact ⟨_, (orderly.served (done i)).1⟩

/-- The way to the end. -/
noncomputable def approach (regular : Regular clientele) :
    TransitionSystem.Approach (system clientele) (fun label => ∃ who, label = .turn who)
      (fun service => (system clientele).Reachable service)
      (fun service => service.deployment.server.terminated ≠ none ∨ AllReturned service) where
  rank service := Parties.rank service.toWorld
  helpful service :=
    .turn (helpfulTurn clientele service.deployment.answers service.toWorld)
  isChosen _ _ _ := ⟨_, rfl⟩
  keeps service label reached away := by
    obtain ⟨alive, -⟩ := not_or.mp away
    unfold TransitionSystem.advance
    cases taken : (system clientele).step service label with
    | none => exact .inr ⟨reached, .inr ⟨rfl, rfl⟩⟩
    | some next =>
        rcases rank_of_step regular reached (not_not.mp alive) taken with
          ended | lower | ⟨same, sameAnswers⟩
        · exact .inl (.inl ended)
        · exact .inr ⟨reached.next taken, .inl lower⟩
        · refine .inr ⟨reached.next taken, .inr ⟨?_, ?_⟩⟩
          · exact congrArg Parties.rank same
          · exact congrArg ServiceStep.turn (by
              rw [Option.getD_some, same, sameAnswers])
  helps service reached away := by
    obtain ⟨alive, unserved⟩ := not_or.mp away
    have alive := not_not.mp alive
    have lowers := helpfulTurn_lowers regular reached alive unserved
    have recorded := recorded_of_reachable reached
    unfold TransitionSystem.advance at lowers
    cases moves : (clientele.parties service.deployment.answers).system.step service.toWorld
        (helpfulTurn clientele service.deployment.answers service.toWorld) with
    | none =>
        rw [moves] at lowers
        exact absurd lowers (Nat.lt_irrefl _)
    | some world =>
        rw [moves] at lowers
        obtain ⟨next, taken, after⟩ := exists_step recorded moves
        rw [TransitionSystem.advance_of_step taken]
        rcases after with rfl | ⟨req, more⟩
        · exact .inr lowers
        · rcases rank_of_step regular reached alive taken with ended | lower | ⟨same, -⟩
          · exact .inl (.inl ended)
          · exact .inr lower
          · have unchecked := congrArg (fun world => world.server.checked) same
            change next.deployment.server.checked = service.deployment.server.checked at unchecked
            rw [more] at unchecked
            exact absurd unchecked (by simp)

/-! ### The end -/

/-- Under any schedule that is fair to the threads and the clients, all clients
that take turns return, if `ValidateGroup` accepts the group and no exchanged block
begins with a zero byte, unless the processing thread comes to check a client whose
selected license is then an individual one, which ends the process. -/
theorem all_return_or_individual (regular : Regular clientele) {start : Service n}
    (initially : (system clientele).initial start) {schedule : Nat → ServiceStep n}
    (fair : TransitionSystem.FairTo (fun label => ∃ who, label = .turn who) schedule) :
    ∃ time, AllReturned ((system clientele).trace schedule start time) ∨
      (∃ i, ReadsIndividual clientele ((system clientele).trace schedule start time) i) ∧
        ((system clientele).trace schedule start (time + 1)).deployment.server.terminated ≠
          none := by
  have booted : (system clientele).Reachable start := .start initially
  obtain ⟨time, -, ends⟩ := (approach regular).eventually fair 0 booted
  rcases ends with ended | served
  · obtain ⟨first, alive, ends⟩ : ∃ first,
        ((system clientele).trace schedule start first).deployment.server.terminated = none ∧
        ((system clientele).trace schedule start (first + 1)).deployment.server.terminated ≠
          none := by
      induction time with
      | zero =>
          rcases initially with ⟨crypto, dirty, world, rfl⟩
          exact absurd rfl ended
      | succ time inductionHypothesis =>
          by_cases alive : ((system clientele).trace schedule start
              time).deployment.server.terminated = none
          · exact ⟨time, alive, ended⟩
          · exact inductionHypothesis alive
    refine ⟨first, .inr ⟨?_, ends⟩⟩
    have reached := booted.trace schedule first
    cases taken : (system clientele).step ((system clientele).trace schedule start first)
        (schedule first) with
    | none =>
        rw [TransitionSystem.trace, TransitionSystem.advance, taken] at ends
        exact absurd alive ends
    | some next =>
        rw [TransitionSystem.trace, TransitionSystem.advance_of_step taken] at ends
        exact (readsIndividual_of_terminates regular reached alive taken ends).2
  · exact ⟨time, .inl served⟩

/-! ### Two clients and the test data -/

/-- The first is the test client. -/
def twoClients : Clientele 2 where
  site := ⟨Parties.twoClients.config.network, Parties.twoClients.config.lib,
    Parties.twoClients.config.draws⟩
  draw := Parties.twoClients.draw
  clientID := Parties.twoClients.clientID

theorem twoClients_regular : Regular twoClients where
  lawful := Parties.twoClients_regular.lawful
  serverGroup := Parties.twoClients_regular.serverGroup
  clientGroup := Parties.twoClients_regular.clientGroup
  full := Parties.twoClients_regular.full

def testStart : Service 2 :=
  ⟨⟨.boot .initial, Database.initial true false, Authorization.testWorld, []⟩, fun _ => .initial⟩

theorem testStart_initial : (system twoClients).initial testStart :=
  ⟨.initial, false, Authorization.testWorld, rfl⟩

def inTurns (time : Nat) : ServiceStep 2 := .turn (Parties.roundRobin time)

theorem inTurns_fair :
    TransitionSystem.FairTo (fun label => ∃ who, label = .turn who) inTurns := by
  rintro label ⟨who, rfl⟩ time
  obtain ⟨later, after, chosen⟩ := Parties.roundRobin_fair who time
  exact ⟨later, after, congrArg ServiceStep.turn chosen⟩

theorem testStart_moment (time : Nat) :
    ((system twoClients).trace inTurns testStart time).moment =
      ⟨Authorization.testTables, 1500000000⟩ := by
  induction time with
  | zero => rfl
  | succ time inductionHypothesis =>
      have reached := (TransitionSystem.Reachable.start testStart_initial).trace inTurns time
      rw [TransitionSystem.trace]
      unfold TransitionSystem.advance
      cases taken : (system twoClients).step ((system twoClients).trace inTurns testStart time)
          (inTurns time) with
      | none => exact inductionHypothesis
      | some next =>
          exact (moment_of_turn (recorded_of_reachable reached) taken).trans inductionHypothesis

/-- There is no individual license in the test data. -/
theorem testStart_not_individual (time : Nat) (i : Fin 2) :
    ¬ ReadsIndividual twoClients ((system twoClients).trace inTurns testStart time) i := by
  rintro ⟨req, -, -, row, member, -, ⟨license, isText, reads⟩, -⟩
  rw [testStart_moment] at member
  obtain rfl := List.mem_singleton.mp member
  obtain rfl := SqlValue.text.inj isText
  exact absurd reads (by decide)

theorem all_return_or_individual_two_clients :
    ∃ time, AllReturned ((system twoClients).trace inTurns testStart time) := by
  obtain ⟨time, served | ⟨⟨i, individual⟩, -⟩⟩ :=
    all_return_or_individual twoClients_regular testStart_initial inTurns_fair
  · exact ⟨time, served⟩
  · exact absurd individual (testStart_not_individual time i)

/-! ### What they return -/

end Service

end LicensingServer
