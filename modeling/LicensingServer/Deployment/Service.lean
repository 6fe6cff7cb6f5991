import LicensingServer.Deployment.System
import LicensingServer.Authorization.Calls
import LicensingServer.Sessions.Served

/-!
Owns the whole: clients that take turns, the two threads of the server, and the
tables that the processing thread asks while time passes and an administrator
changes them. Each check is made in some client's turn, and answers as the tables
stand then.

Does not own that the sessions end, nor clients that overlap.
-/

set_option autoImplicit false

namespace LicensingServer

open LicensingServer.Foundations

/-- Who takes part, apart from the database. -/
structure Clientele (n : Nat) where
  site : Server.Site (Fin n)
  draw : Fin n → KeyDraw site.lib
  clientID : Fin n → Bytes

/-- The parties whose checks have these outcomes. -/
def Clientele.parties {n : Nat} (clientele : Clientele n)
    (answers : List (Except Exception Bool)) : Parties n :=
  ⟨clientele.site.config (Server.recorded answers), clientele.draw, clientele.clientID⟩

structure Service (n : Nat) where
  deployment : Deployment (Fin n) Nat TableWorld
  clients : Fin n → Client

/-- A party moves, or the tables and the clock change. -/
inductive ServiceStep (n : Nat)
  | turn (who : Turn n)
  | administer (moment : Authorization.Moment)

namespace Service

variable {n : Nat}

/-- The server and its clients. -/
def toWorld (service : Service n) : World n := ⟨service.deployment.server, service.clients⟩

/-- What the tables hold, and the time. -/
def moment (service : Service n) : Authorization.Moment :=
  ⟨service.deployment.world.tables, service.deployment.world.now⟩

variable (clientele : Clientele n)

/-- A statement of one of the server's threads. -/
def threadStep (service : Service n) (who : Step (Fin n)) : Option (Service n) :=
  (service.deployment.step tableSqlite clientele.site
    (service.deployment.world.tables.userValidIP.length + 1) who).map fun deployment =>
      { service with deployment }

def clientStep (service : Service n) (i : Fin n) : Option (Service n) :=
  ((clientele.parties service.deployment.answers).clientStep service.toWorld i).map fun world =>
    ⟨{ service.deployment with server := world.server }, world.clients⟩

def administer (service : Service n) (moment : Authorization.Moment) : Service n :=
  { service with
    deployment := { service.deployment with
      world := { service.deployment.world with tables := moment.tables, now := moment.now } } }

/-- The file is opened, and nothing has been asked. -/
def system : TransitionSystem (Service n) (ServiceStep n) where
  initial service := ∃ crypto dirty world, service =
    ⟨⟨.boot crypto, Database.initial true dirty, world, []⟩, fun _ => .initial⟩
  step service
    | .turn .waitRequest => service.threadStep clientele .waitRequest
    | .turn .processRequest => service.threadStep clientele .processRequest
    | .turn (.client i) => service.clientStep clientele i
    | .administer moment => some (service.administer moment)

/-! ### Sessions under recorded answers -/

variable {clientele}

theorem parties_step_of_agree {answers other : List (Except Exception Bool)} {count : Nat}
    (agree : ∀ earlier req, earlier.length < count →
      Server.recorded answers earlier req = Server.recorded other earlier req)
    {world next : World n} {turn : Turn n}
    (taken : (clientele.parties answers).system.step world turn = some next)
    (within : next.server.checked.length ≤ count) :
    world.server.checked.length ≤ count ∧
      (clientele.parties other).system.step world turn = some next := by
  have threads (who : Step (Fin n)) {server : Server (Fin n)}
      (moved : (Server.system (clientele.parties answers).config).step world.server who =
        some server) (within : server.checked.length ≤ count) :
      world.server.checked.length ≤ count ∧
        (Server.system (clientele.parties other).config).step world.server who = some server :=
    Server.step_of_agree agree moved within
  cases turn with
  | waitRequest =>
      obtain ⟨server, moved, rfl⟩ := Option.map_eq_some_iff.mp taken
      obtain ⟨before, same⟩ := threads _ moved within
      exact ⟨before, by simp only [Parties.system, same, Option.map_some]⟩
  | processRequest =>
      obtain ⟨server, moved, rfl⟩ := Option.map_eq_some_iff.mp taken
      obtain ⟨before, same⟩ := threads _ moved within
      exact ⟨before, by simp only [Parties.system, same, Option.map_some]⟩
  | client i =>
      obtain ⟨-, client, message, -, after⟩ := Parties.clientStep_eq_some taken
      refine ⟨?_, taken⟩
      rcases after with ⟨-, rfl⟩ | ⟨sent, -, rfl⟩
      · exact within
      · exact within

/-- What is reached with some outcomes is reached with any that continue them. -/
theorem parties_reachable_of_agree {answers other : List (Except Exception Bool)} {count : Nat}
    (agree : ∀ earlier req, earlier.length < count →
      Server.recorded answers earlier req = Server.recorded other earlier req)
    {world : World n} (reached : (clientele.parties answers).system.Reachable world)
    (within : world.server.checked.length ≤ count) :
    (clientele.parties other).system.Reachable world := by
  induction reached with
  | initial start => exact .start start
  | step _ _ taken inductionHypothesis =>
      obtain ⟨before, same⟩ := parties_step_of_agree agree taken within
      exact (inductionHypothesis before).next same

/-! ### One step -/

/-- What a step does: the tables change, or a party moves on. Only a check asks
the tables. -/
inductive Proceeds (clientele : Clientele n) (service : Service n) :
    ServiceStep n → Service n → Prop
  | administer (moment : Authorization.Moment) :
      Proceeds clientele service (.administer moment) (service.administer moment)
  | quiet {who world} (unchecked : world.server.checked = service.deployment.server.checked)
      (taken : (clientele.parties service.deployment.answers).system.step service.toWorld who =
        some world) :
      Proceeds clientele service (.turn who)
        ⟨{ service.deployment with server := world.server }, world.clients⟩
  | check {req answer server database world}
      (place : service.deployment.server.process = .check req)
      (called : Authorization.call service.moment req.login service.deployment.database
        service.deployment.world = some (answer, database, world))
      (checked : server.checked = service.deployment.server.checked ++ [req])
      (taken : (Server.system (clientele.site.config
        (Server.recorded (service.deployment.answers ++ [answer])))).step
          service.deployment.server .processRequest = some server) :
      Proceeds clientele service (.turn .processRequest)
        ⟨⟨server, database, world, service.deployment.answers ++ [answer]⟩, service.clients⟩

theorem proceeds_of_thread {service next : Service n} {who : Step (Fin n)} {turn : Turn n}
    (isTurn : who = .waitRequest ∧ turn = .waitRequest ∨
      who = .processRequest ∧ turn = .processRequest)
    (taken : service.threadStep clientele who = some next) :
    Proceeds clientele service (.turn turn) next := by
  obtain ⟨deployment, moved, rfl⟩ := Option.map_eq_some_iff.mp taken
  cases Deployment.moves_of_step moved with
  | check isProcess place called stepped =>
      rcases isTurn with ⟨isWait, -⟩ | ⟨-, rfl⟩
      · cases isWait.symm.trans isProcess
      · rcases Server.step_checked stepped with ⟨-, elsewhere⟩ | ⟨other, otherPlace, -, more⟩
        · exact absurd place (elsewhere isProcess _)
        · rw [place] at otherPlace
          obtain rfl := ProcessThread.check.inj otherPlace
          rw [isProcess] at stepped
          exact .check place called more stepped
  | @other server elsewhere stepped =>
      have unchecked : server.checked = service.deployment.server.checked := by
        rcases Server.step_checked stepped with ⟨same, -⟩ | ⟨req, place, isProcess, -⟩
        · exact same
        · exact absurd place (elsewhere isProcess req)
      rcases isTurn with ⟨rfl, rfl⟩ | ⟨rfl, rfl⟩
      · exact @Proceeds.quiet n clientele service .waitRequest ⟨server, service.clients⟩ unchecked
          (congrArg (Option.map fun server => World.mk server service.clients) stepped)
      · exact @Proceeds.quiet n clientele service .processRequest ⟨server, service.clients⟩ unchecked
          (congrArg (Option.map fun server => World.mk server service.clients) stepped)

theorem proceeds_of_step {service next : Service n} {label : ServiceStep n}
    (taken : (system clientele).step service label = some next) :
    Proceeds clientele service label next := by
  cases label with
  | administer moment =>
      obtain rfl := Option.some.inj taken
      exact .administer moment
  | turn who =>
      cases who with
      | waitRequest => exact proceeds_of_thread (.inl ⟨rfl, rfl⟩) taken
      | processRequest => exact proceeds_of_thread (.inr ⟨rfl, rfl⟩) taken
      | client i =>
          obtain ⟨world, moved, rfl⟩ := Option.map_eq_some_iff.mp taken
          refine .quiet ?_ moved
          obtain ⟨-, client, message, -, after⟩ := Parties.clientStep_eq_some moved
          rcases after with ⟨-, rfl⟩ | ⟨sent, -, rfl⟩
          · rfl
          · rfl

/-! ### Every reachable state -/

/-- The answers recorded are those of the checks made, on an object that is still
open, and the parties move as if the answers had been known before. -/
structure Recorded (clientele : Clientele n) (service : Service n) : Prop where
  count : service.deployment.answers.length = service.deployment.server.checked.length
  options : service.deployment.database.options = .initial
  db : service.deployment.database.db = true
  world : (clientele.parties service.deployment.answers).system.Reachable service.toWorld

theorem recorded_initial {service : Service n} (start : (system clientele).initial service) :
    Recorded clientele service := by
  rcases start with ⟨crypto, dirty, world, rfl⟩
  exact ⟨rfl, rfl, rfl, .start ⟨crypto, rfl⟩⟩

/-- The first answers are the same when one more comes. -/
theorem Recorded.agree {service : Service n} (recorded : Recorded clientele service)
    (answer : Except Exception Bool) (earlier : List LoginRequest) (req : LoginRequest)
    (within : earlier.length < service.deployment.server.checked.length) :
    Server.recorded service.deployment.answers earlier req =
      Server.recorded (service.deployment.answers ++ [answer]) earlier req := by
  rw [← recorded.count] at within
  exact (Server.recorded_append_left [answer] within req).symm

/-- A check returns what the tables call for, and leaves them as they are. -/
theorem Recorded.called {service : Service n} (recorded : Recorded clientele service)
    {req : LoginRequest} {answer : Except Exception Bool} {database : Csqliter Nat}
    {world : TableWorld}
    (called : Authorization.call service.moment req service.deployment.database
      service.deployment.world = some (answer, database, world)) :
    answer = Authorization.answer service.moment req ∧
      Database.Opened service.moment.tables service.moment.now database world := by
  obtain ⟨left, after, value, -⟩ := Authorization.call_value service.moment req
    service.deployment.world recorded.options recorded.db
  obtain ⟨rfl, -⟩ := Prod.mk.inj (Option.some.inj (called.symm.trans value))
  exact ⟨rfl, Authorization.opened_checkLoginRequest
    ⟨recorded.options, recorded.db, rfl, rfl⟩ called⟩

theorem Recorded.next {service next : Service n} {label : ServiceStep n}
    (recorded : Recorded clientele service) (proceeds : Proceeds clientele service label next) :
    Recorded clientele next := by
  cases proceeds with
  | administer moment => exact ⟨recorded.count, recorded.options, recorded.db, recorded.world⟩
  | quiet unchecked taken =>
      exact ⟨by rw [unchecked]; exact recorded.count, recorded.options, recorded.db,
        recorded.world.next taken⟩
  | @check req answer server database world place called checked taken =>
      obtain ⟨-, opened⟩ := recorded.called called
      have before := parties_reachable_of_agree (recorded.agree answer) recorded.world
        (Nat.le_refl _)
      have moves : (clientele.parties (service.deployment.answers ++ [answer])).system.step
          service.toWorld .processRequest = some ⟨server, service.clients⟩ :=
        congrArg (Option.map fun server => World.mk server service.clients) taken
      refine ⟨?_, opened.options, opened.db, before.next moves⟩
      rw [List.length_append, List.length_singleton, checked, List.length_append,
        List.length_singleton, recorded.count]

/-- Only the administrator and the clock change what the tables say. -/
theorem moment_of_turn {service next : Service n} {who : Turn n}
    (recorded : Recorded clientele service)
    (taken : (system clientele).step service (.turn who) = some next) :
    next.moment = service.moment := by
  cases proceeds_of_step taken with
  | quiet unchecked moved => rfl
  | @check req answer server database world place called checked moved =>
      obtain ⟨-, opened⟩ := recorded.called called
      change (⟨world.tables, world.now⟩ : Authorization.Moment) = _
      rw [opened.tables, opened.now]

theorem recorded_of_reachable {service : Service n}
    (reached : (system clientele).Reachable service) : Recorded clientele service :=
  reached.invariant (Recorded clientele) (fun _ => recorded_initial)
    fun _ _ _ recorded taken => recorded.next (proceeds_of_step taken)

/-! ### While no check throws -/

theorem alive_of_parties {answers : List (Except Exception Bool)} {world next : World n}
    {turn : Turn n} (taken : (clientele.parties answers).system.step world turn = some next)
    (alive : next.server.terminated = none) : world.server.terminated = none := by
  cases turn with
  | waitRequest =>
      obtain ⟨server, moved, rfl⟩ := Option.map_eq_some_iff.mp taken
      exact (Server.step_cases moved).1
  | processRequest =>
      obtain ⟨server, moved, rfl⟩ := Option.map_eq_some_iff.mp taken
      exact (Server.step_cases moved).1
  | client i =>
      obtain ⟨-, client, message, -, after⟩ := Parties.clientStep_eq_some taken
      rcases after with ⟨-, rfl⟩ | ⟨sent, -, rfl⟩
      · exact alive
      · exact alive

/-- A check behind which the process goes on has returned. -/
theorem Recorded.returns {service : Service n} (recorded : Recorded clientele service)
    {req : Queued} {answer : Except Exception Bool} {server : Server (Fin n)}
    (place : service.deployment.server.process = .check req)
    (taken : (Server.system (clientele.site.config
      (Server.recorded (service.deployment.answers ++ [answer])))).step
        service.deployment.server .processRequest = some server)
    (alive : server.terminated = none) : ∃ isValid, answer = .ok isValid := by
  rcases Server.step_cases taken with ⟨-, ⟨message, same, -⟩ | ⟨same, -⟩ | ⟨-, moves⟩⟩
  · cases same
  · cases same
  · cases moves with
    | checkFails => cases alive
    | @check other isValid otherPlace done =>
        have value := @Server.recorded_concat service.deployment.answers answer
          (service.deployment.server.checked.map Queued.login)
          (by rw [List.length_map, recorded.count]) other.login
        exact ⟨isValid, value.symm.trans done⟩
    | _ elsewhere => cases place.symm.trans elsewhere

/-- Every check has returned. -/
def Answered (service : Service n) : Prop :=
  ∀ answer ∈ service.deployment.answers, ∃ isValid, answer = .ok isValid

theorem Proceeds.alive {service next : Service n} {label : ServiceStep n}
    (proceeds : Proceeds clientele service label next)
    (alive : next.deployment.server.terminated = none) :
    service.deployment.server.terminated = none := by
  cases proceeds with
  | administer moment => exact alive
  | quiet unchecked taken => exact alive_of_parties taken alive
  | check place called checked taken => exact (Server.step_cases taken).1

theorem answered_of_reachable {service : Service n}
    (reached : (system clientele).Reachable service)
    (alive : service.deployment.server.terminated = none) : Answered service := by
  induction reached with
  | initial start =>
      rcases start with ⟨crypto, dirty, world, rfl⟩
      exact fun answer none => absurd none List.not_mem_nil
  | step before _ taken inductionHypothesis =>
      have proceeds := proceeds_of_step taken
      have answered := inductionHypothesis (proceeds.alive alive)
      have recorded := recorded_of_reachable before
      cases proceeds with
      | administer moment => exact answered
      | quiet unchecked moved => exact answered
      | check place called checked moved =>
          intro answer member
          rcases List.mem_append.mp member with earlier | last
          · exact answered answer earlier
          · rw [List.mem_singleton.mp last]
            exact recorded.returns place moved alive

/-- Crypto++ behaves as documented, `ValidateGroup` accepts the group, and no
block that crosses the wire begins with a zero byte. -/
structure Regular (clientele : Clientele n) : Prop where
  lawful : clientele.site.lib.Lawful
  serverGroup : ∀ i : Fin n, (clientele.site.draws i).groupValid = true
  clientGroup : ∀ i, (clientele.draw i).groupValid = true
  full : ∀ i : Fin n, ∀ block ∈ Crypto.exchanged (clientele.site.draws i) (clientele.draw i),
    ¬ Crypto.LeadsWithZero block

/-- The result of the check that comes in this client's turn. -/
def resultFor (answers : List (Except Exception Bool)) (i : Fin n) : Bool :=
  match answers[i.val]? with
  | some (.ok isValid) => isValid
  | _ => false

theorem Regular.parties (regular : Regular clientele) {service : Service n}
    (answered : Answered service) :
    (clientele.parties service.deployment.answers).Regular
      (resultFor service.deployment.answers) where
  lawful := regular.lawful
  serverGroup := regular.serverGroup
  clientGroup := regular.clientGroup
  full := regular.full
  answers i := by
    have turn : ((clientele.parties service.deployment.answers).earlier i).length = i := by
      rw [Parties.earlier, List.length_map, List.length_take, List.length_finRange]
      exact Nat.min_eq_left (Nat.le_of_lt i.isLt)
    change service.deployment.answers.getD
      ((clientele.parties service.deployment.answers).earlier i).length (.ok false) = _
    rw [turn, resultFor, List.getD_eq_getElem?_getD]
    cases found : service.deployment.answers[i.val]? with
    | none => rfl
    | some answer =>
        obtain ⟨isValid, rfl⟩ := answered answer (List.mem_of_getElem? found)
        rfl

theorem orderly_of_reachable (regular : Regular clientele) {service : Service n}
    (reached : (system clientele).Reachable service)
    (alive : service.deployment.server.terminated = none) :
    (clientele.parties service.deployment.answers).Orderly
      (resultFor service.deployment.answers) service.toWorld :=
  Parties.orderly_of_reachable (regular.parties (answered_of_reachable reached alive))
    (recorded_of_reachable reached).world

/-! ### The moment of a check -/

/-- Somewhere in the run the check with this number was made, and this is what the
tables called for there. -/
def CheckedIn (clientele : Clientele n) (start : Service n) (steps : List (ServiceStep n))
    (turn : Nat) (answer : Except Exception Bool) : Prop :=
  ∃ before after middle req, steps = before ++ .turn .processRequest :: after ∧
    (system clientele).run start before = some middle ∧
    middle.deployment.server.terminated = none ∧
    middle.deployment.server.process = .check req ∧
    middle.deployment.answers.length = turn ∧
    answer = Authorization.answer middle.moment req.login

theorem CheckedIn.append {start : Service n} {steps : List (ServiceStep n)} {turn : Nat}
    {answer : Except Exception Bool} (checked : CheckedIn clientele start steps turn answer)
    (more : List (ServiceStep n)) : CheckedIn clientele start (steps ++ more) turn answer := by
  rcases checked with ⟨before, after, middle, req, rfl, found⟩
  refine ⟨before, after ++ more, middle, req, ?_, found⟩
  rw [List.append_assoc, List.cons_append]

/-- The check is made for the client whose turn it is, which has sent its ID and
got no result. -/
theorem checks_turn (regular : Regular clientele) {service : Service n}
    (reached : (system clientele).Reachable service)
    (alive : service.deployment.server.terminated = none) {req : Queued}
    (place : service.deployment.server.process = .check req) :
    ∃ i : Fin n, i.val = service.deployment.answers.length ∧
      req.login.clientID = clientele.clientID i ∧
      (service.clients i).thread.HasIdentified ∧
      ∀ result, (service.clients i).thread ≠ .returned result := by
  have orderly := orderly_of_reachable regular reached alive
  have recorded := recorded_of_reachable reached
  have handOff := orderly.handOff
  have hand : service.deployment.server.process.inHand = [req] := by
    rw [place]
    rfl
  obtain ⟨i, serving⟩ := orderly.inTurn.serving handOff hand
  have during := serving.during
  refine ⟨i, ?_, by rw [serving.request]; rfl, ?_, fun result returned => ?_⟩
  · have popped := congrArg List.length serving.popped
    have checked := congrArg List.length handOff.checked
    rw [popped] at checked
    change _ = (service.deployment.server.checked ++
      service.deployment.server.process.unchecked).length at checked
    rw [place, List.length_append, List.length_append,
      Parties.before_length _ (Nat.le_of_lt i.isLt), ← recorded.count] at checked
    exact Nat.succ.inj checked
  · exact (during.identified i).mpr (Nat.lt_succ_self _)
  · have inPlace := orderly.clients i
    have got := orderly.got i
    have replied := during.replied
    change (service.clients i).thread = .returned result at returned
    simp only [Parties.ClientInPlace, toWorld, returned] at inPlace
    unfold Parties.frameCount at got
    change (service.clients i).got ≤ _ at got
    split_ifs at got <;> omega

end Service

end LicensingServer
