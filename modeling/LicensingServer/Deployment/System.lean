import LicensingServer.Server.HandOff
import LicensingServer.Authorization.Decision

/-!
Owns the server together with its `Authorization` object: the call of
`checkLoginRequest` in the processing thread runs on the `Database` that the
object holds, over any SQLite world.

Every deployment refines the server with some outcomes of that call, so that
what holds of the server for all outcomes holds of it.
-/

set_option autoImplicit false

namespace LicensingServer

open LicensingServer.Foundations

namespace Server

variable {Peer : Type}

/-! ### Outcomes of the calls made so far -/

/-- What the server runs with, apart from the database. -/
structure Site (Peer : Type) where
  network : Network Peer
  lib : CryptoPP
  draws : Nat → KeyDraw lib

def Site.config (site : Site Peer)
    (check : List LoginRequest → LoginRequest → Except Exception Bool) : Config Peer :=
  ⟨site.network, site.lib, site.draws, check⟩

/-- The outcomes of the first calls of `checkLoginRequest`, in order. -/
def recorded (answers : List (Except Exception Bool)) :
    List LoginRequest → LoginRequest → Except Exception Bool :=
  fun earlier _ => answers.getD earlier.length (.ok false)

theorem recorded_append_left {answers : List (Except Exception Bool)}
    (more : List (Except Exception Bool)) {earlier : List LoginRequest}
    (within : earlier.length < answers.length) (req : LoginRequest) :
    recorded (answers ++ more) earlier req = recorded answers earlier req := by
  unfold recorded
  rw [List.getD_append _ _ _ _ within]

theorem recorded_concat {answers : List (Except Exception Bool)}
    (answer : Except Exception Bool) {earlier : List LoginRequest}
    (last : earlier.length = answers.length) (req : LoginRequest) :
    recorded (answers ++ [answer]) earlier req = answer := by
  unfold recorded
  rw [last, List.getD_append_right _ _ _ _ (Nat.le_refl _), Nat.sub_self]
  rfl

/-- The calls that the server has made so far, of which only the length matters. -/
theorem processStep_of_agree {site : Site Peer}
    {check other : List LoginRequest → LoginRequest → Except Exception Bool} {server : Server Peer}
    (agree : ∀ req, server.process = .check req →
      check (server.checked.map Queued.login) req.login =
        other (server.checked.map Queued.login) req.login) :
    server.processStep (site.config check) = server.processStep (site.config other) := by
  unfold processStep
  cases place : server.process with
  | check req =>
      simp only [Site.config]
      rw [agree req place]
  | _ => rfl

theorem step_checked {config : Config Peer} {server next : Server Peer} {who : Step Peer}
    (taken : (system config).step server who = some next) :
    (next.checked = server.checked ∧
        (who = .processRequest → ∀ req, server.process ≠ .check req)) ∨
      ∃ req, server.process = .check req ∧ who = .processRequest ∧
        next.checked = server.checked ++ [req] := by
  rcases step_cases taken with ⟨-, ⟨message, rfl, rfl⟩ | ⟨rfl, waits⟩ | ⟨rfl, processes⟩⟩
  · exact .inl ⟨rfl, fun other => by cases other⟩
  · exact .inl ⟨waits.leavesProcess.checked, fun other => by cases other⟩
  · cases processes with
    | checkFails place | check place => exact .inr ⟨_, place, rfl, rfl⟩
    | _ place => exact .inl ⟨rfl, fun _ req elsewhere => by cases place.symm.trans elsewhere⟩

theorem step_of_agree {site : Site Peer}
    {check other : List LoginRequest → LoginRequest → Except Exception Bool} {count : Nat}
    (agree : ∀ earlier req, earlier.length < count → check earlier req = other earlier req)
    {server next : Server Peer} {who : Step Peer}
    (taken : (system (site.config check)).step server who = some next)
    (within : next.checked.length ≤ count) :
    server.checked.length ≤ count ∧ (system (site.config other)).step server who = some next := by
  rcases step_checked taken with ⟨same, elsewhere⟩ | ⟨req, place, rfl, more⟩
  · refine ⟨by rw [← same]; exact within, ?_⟩
    rw [← taken]
    cases who with
    | arrive message => rfl
    | waitRequest => rfl
    | processRequest =>
        have alive := (step_cases taken).1
        rw [step_processRequest alive, step_processRequest alive]
        apply processStep_of_agree
        intro req place
        exact absurd place (elsewhere rfl req)
  · rw [more, List.length_append, List.length_singleton] at within
    refine ⟨by omega, ?_⟩
    have alive := (step_cases taken).1
    rw [← taken, step_processRequest alive, step_processRequest alive]
    apply processStep_of_agree
    intro other _
    symm
    apply agree
    rw [List.length_map]
    omega

/-- A run takes place with any check that answers its calls alike. -/
theorem run_of_agree {site : Site Peer}
    {check other : List LoginRequest → LoginRequest → Except Exception Bool} {count : Nat}
    (agree : ∀ earlier req, earlier.length < count → check earlier req = other earlier req)
    {start last : Server Peer} {steps : List (Step Peer)}
    (ran : (system (site.config check)).run start steps = some last)
    (within : last.checked.length ≤ count) :
    (system (site.config other)).run start steps = some last := by
  induction steps using List.reverseRecOn generalizing last with
  | nil => exact ran
  | append_singleton steps who inductionHypothesis =>
      rw [TransitionSystem.run_append] at ran ⊢
      obtain ⟨middle, before, taken⟩ := Option.bind_eq_some_iff.mp ran
      rw [TransitionSystem.run_singleton] at taken
      obtain ⟨withinMiddle, same⟩ := step_of_agree agree taken within
      rw [inductionHypothesis before withinMiddle, Option.bind_some,
        TransitionSystem.run_singleton]
      exact same

end Server

/-! ### The deployment -/

/-- The server, the `Database` of its `Authorization` object, the SQLite world,
and what `checkLoginRequest` has returned so far. -/
structure Deployment (Peer Stmt World : Type) where
  server : Server Peer
  database : Csqliter Stmt
  world : World
  answers : List (Except Exception Bool)

namespace Deployment

open Server

variable {Peer World Stmt : Type} (api : Sqlite World Stmt) (site : Site Peer) (rounds : Nat)

/-- `auth.checkLoginRequest(req)` in the processing thread. -/
def callCheck (deployment : Deployment Peer Stmt World) (req : Queued) :
    Option (Deployment Peer Stmt World) :=
  (Authorization.checkLoginRequest api rounds req.login deployment.database
    deployment.world).bind fun (answer, database, world) =>
      let answers := deployment.answers ++ [answer]
      ((Server.system (site.config (recorded answers))).step deployment.server
        .processRequest).map fun server => ⟨server, database, world, answers⟩

/-- A step of the server. Only the processing thread uses the database, and only
to check a request. -/
def step (deployment : Deployment Peer Stmt World) (who : Step Peer) :
    Option (Deployment Peer Stmt World) :=
  match who, deployment.server.process with
  | .processRequest, .check req => deployment.callCheck api site rounds req
  | who, _ =>
      ((Server.system (site.config (recorded deployment.answers))).step deployment.server who).map
        fun server => { deployment with server }

/-- The deployments that begin in one of these worlds, with the file opened or
not; `rounds` bounds the reading loop of `getUserValidIPs`. -/
def system (begins : World → Prop) :
    TransitionSystem (Deployment Peer Stmt World) (Step Peer) where
  initial deployment := ∃ crypto opened dirty world, begins world ∧
    deployment = ⟨boot crypto, Database.initial opened dirty, world, []⟩
  step deployment who := deployment.step api site rounds who

variable {api site rounds}

/-- What a step of a deployment does: it checks a request, or leaves the database
alone. -/
inductive Moves (api : Sqlite World Stmt) (site : Site Peer) (rounds : Nat)
    (deployment : Deployment Peer Stmt World) (who : Step Peer) :
    Deployment Peer Stmt World → Prop
  | check {req answer server database world} (isProcess : who = .processRequest)
      (place : deployment.server.process = .check req)
      (called : Authorization.checkLoginRequest api rounds req.login deployment.database
        deployment.world = some (answer, database, world))
      (taken : (Server.system (site.config (recorded (deployment.answers ++ [answer])))).step
        deployment.server who = some server) :
      Moves api site rounds deployment who ⟨server, database, world, deployment.answers ++ [answer]⟩
  | other {server} (elsewhere : who = .processRequest → ∀ req, deployment.server.process ≠ .check req)
      (taken : (Server.system (site.config (recorded deployment.answers))).step
        deployment.server who = some server) :
      Moves api site rounds deployment who { deployment with server }

theorem moves_of_step {deployment next : Deployment Peer Stmt World} {who : Step Peer}
    (taken : deployment.step api site rounds who = some next) :
    Moves api site rounds deployment who next := by
  unfold step at taken
  split at taken
  · rename_i req place
    unfold callCheck at taken
    obtain ⟨⟨answer, database, world⟩, called, moved⟩ := Option.bind_eq_some_iff.mp taken
    obtain ⟨server, stepped, rfl⟩ := Option.map_eq_some_iff.mp moved
    exact .check rfl place called stepped
  · rename_i elsewhere
    obtain ⟨server, stepped, rfl⟩ := Option.map_eq_some_iff.mp taken
    exact .other (fun isProcess req place => elsewhere req isProcess place) stepped

theorem step_check {deployment : Deployment Peer Stmt World} {req : Queued}
    (place : deployment.server.process = .check req) :
    deployment.step api site rounds .processRequest = deployment.callCheck api site rounds req := by
  unfold step
  rw [place]

theorem step_elsewhere {deployment : Deployment Peer Stmt World} {who : Step Peer}
    (elsewhere : who = .processRequest → ∀ req, deployment.server.process ≠ .check req) :
    deployment.step api site rounds who =
      ((Server.system (site.config (recorded deployment.answers))).step deployment.server who).map
        fun server => { deployment with server } := by
  unfold step
  split
  · rename_i req place
    exact absurd place (elsewhere rfl req)
  · rfl

/-! ### Calls one after the other -/

/-- `checkLoginRequest` for these requests in turn, on one object. -/
def runChecks (api : Sqlite World Stmt) (rounds : Nat) :
    List LoginRequest → Csqliter Stmt → World →
      Option (List (Except Exception Bool) × Csqliter Stmt × World)
  | [], database, world => some ([], database, world)
  | req :: rest, database, world =>
      (Authorization.checkLoginRequest api rounds req database world).bind
        fun (answer, database, world) =>
          (runChecks api rounds rest database world).map fun (answers, last) =>
            (answer :: answers, last)

theorem runChecks_length {requests : List LoginRequest} {database : Csqliter Stmt} {world : World}
    {answers : List (Except Exception Bool)} {last : Csqliter Stmt × World}
    (ran : runChecks api rounds requests database world = some (answers, last)) :
    answers.length = requests.length := by
  induction requests generalizing database world answers with
  | nil =>
      obtain ⟨rfl, -⟩ := Prod.mk.inj (Option.some.inj ran)
      rfl
  | cons req rest inductionHypothesis =>
      obtain ⟨⟨answer, next, after⟩, -, later⟩ := Option.bind_eq_some_iff.mp ran
      obtain ⟨⟨more, final⟩, tail, same⟩ := Option.map_eq_some_iff.mp later
      obtain ⟨rfl, rfl⟩ := Prod.mk.inj same
      rw [List.length_cons, List.length_cons, inductionHypothesis tail]

/-- One more call. -/
theorem runChecks_concat_iff {requests : List LoginRequest} {req : LoginRequest}
    {database last : Csqliter Stmt} {world after : World}
    {answers : List (Except Exception Bool)} :
    runChecks api rounds (requests ++ [req]) database world = some (answers, last, after) ↔
      ∃ earlier answer middle between,
        runChecks api rounds requests database world = some (earlier, middle, between) ∧
        Authorization.checkLoginRequest api rounds req middle between =
          some (answer, last, after) ∧
        answers = earlier ++ [answer] := by
  induction requests generalizing database world answers with
  | nil =>
      simp only [List.nil_append, runChecks]
      constructor
      · intro ran
        obtain ⟨⟨answer, next, later⟩, called, rest⟩ := Option.bind_eq_some_iff.mp ran
        obtain ⟨rfl, same⟩ := Prod.mk.inj (Option.some.inj rest)
        obtain ⟨rfl, rfl⟩ := Prod.mk.inj same
        exact ⟨[], answer, database, world, rfl, called, rfl⟩
      · rintro ⟨earlier, answer, middle, between, start, called, rfl⟩
        obtain ⟨rfl, same⟩ := Prod.mk.inj (Option.some.inj start)
        obtain ⟨rfl, rfl⟩ := Prod.mk.inj same
        rw [called]
        rfl
  | cons first rest inductionHypothesis =>
      simp only [List.cons_append, runChecks]
      constructor
      · intro ran
        obtain ⟨⟨answer, next, later⟩, called, more⟩ := Option.bind_eq_some_iff.mp ran
        obtain ⟨⟨others, final⟩, tail, same⟩ := Option.map_eq_some_iff.mp more
        obtain ⟨rfl, rfl⟩ := Prod.mk.inj same
        obtain ⟨earlier, lastAnswer, middle, between, before, lastCall, rfl⟩ :=
          inductionHypothesis.mp tail
        refine ⟨answer :: earlier, lastAnswer, middle, between, ?_, lastCall, rfl⟩
        simp only [called, Option.bind_some, before, Option.map_some]
      · rintro ⟨earlier, lastAnswer, middle, between, before, lastCall, rfl⟩
        obtain ⟨⟨answer, next, later⟩, called, more⟩ := Option.bind_eq_some_iff.mp before
        obtain ⟨⟨others, final⟩, tail, same⟩ := Option.map_eq_some_iff.mp more
        obtain ⟨rfl, rfl⟩ := Prod.mk.inj same
        have whole := inductionHypothesis.mpr ⟨others, lastAnswer, middle, between, tail, lastCall, rfl⟩
        simp only [called, Option.bind_some, whole, Option.map_some, List.cons_append]

/-! ### Refinement -/

section

variable {begins : World → Prop} {crypto : Crypto} {database : Csqliter Stmt} {world : World}
  {steps : List (Step Peer)} {last : Deployment Peer Stmt World}

/-- A run of a deployment is a run of its server, with the calls made in turn. -/
theorem server_of_run
    (ran : (system api site rounds begins).run ⟨boot crypto, database, world, []⟩ steps =
      some last) :
    (Server.system (site.config (recorded last.answers))).run (boot crypto) steps =
        some last.server ∧
      runChecks api rounds (last.server.checked.map Queued.login) database world =
        some (last.answers, last.database, last.world) := by
  induction steps using List.reverseRecOn generalizing last with
  | nil =>
      obtain rfl := Option.some.inj ran
      exact ⟨rfl, rfl⟩
  | append_singleton steps who inductionHypothesis =>
      rw [TransitionSystem.run_append] at ran
      obtain ⟨middle, before, taken⟩ := Option.bind_eq_some_iff.mp ran
      rw [TransitionSystem.run_singleton] at taken
      obtain ⟨ranServer, calls⟩ := inductionHypothesis before
      have length := runChecks_length calls
      rw [List.length_map] at length
      rw [TransitionSystem.run_append]
      cases moves_of_step taken with
      | other elsewhere stepped =>
          rcases step_checked stepped with ⟨same, -⟩ | ⟨req, place, isProcess, -⟩
          · rw [ranServer, Option.bind_some, TransitionSystem.run_singleton, same]
            exact ⟨stepped, calls⟩
          · exact absurd place (elsewhere isProcess req)
      | @check req answer server _ _ isProcess place called stepped =>
          rcases step_checked stepped with ⟨-, elsewhere⟩ | ⟨other, otherPlace, -, more⟩
          · exact absurd place (elsewhere isProcess req)
          · obtain rfl : req = other := by
              rw [place] at otherPlace
              exact ProcessThread.check.inj otherPlace
            have agree : ∀ earlier login, earlier.length < middle.answers.length →
                recorded middle.answers earlier login =
                  recorded (middle.answers ++ [answer]) earlier login := by
              intro earlier login within
              exact (recorded_append_left [answer] within login).symm
            rw [run_of_agree agree ranServer (by omega), Option.bind_some,
              TransitionSystem.run_singleton, more, List.map_append, List.map_singleton]
            exact ⟨stepped, runChecks_concat_iff.mpr ⟨_, _, _, _, calls, called, rfl⟩⟩

/-- And the other way round. -/
theorem run_of_server
    (ran : (Server.system (site.config (recorded last.answers))).run (boot crypto) steps =
      some last.server)
    (calls : runChecks api rounds (last.server.checked.map Queued.login) database world =
      some (last.answers, last.database, last.world)) :
    (system api site rounds begins).run ⟨boot crypto, database, world, []⟩ steps = some last := by
  induction steps using List.reverseRecOn generalizing last with
  | nil =>
      obtain ⟨server, lastDatabase, lastWorld, answers⟩ := last
      obtain rfl : boot crypto = server := Option.some.inj ran
      obtain ⟨rfl, same⟩ := Prod.mk.inj (Option.some.inj calls)
      obtain ⟨rfl, rfl⟩ := Prod.mk.inj same
      rfl
  | append_singleton steps who inductionHypothesis =>
      rw [TransitionSystem.run_append] at ran ⊢
      obtain ⟨server, before, taken⟩ := Option.bind_eq_some_iff.mp ran
      rw [TransitionSystem.run_singleton] at taken
      rcases step_checked taken with ⟨same, elsewhere⟩ | ⟨req, place, rfl, more⟩
      · rw [same] at calls
        have middle := @inductionHypothesis ⟨server, last.database, last.world, last.answers⟩
          before calls
        rw [middle, Option.bind_some, TransitionSystem.run_singleton]
        show Deployment.step api site rounds _ who = some last
        rw [step_elsewhere elsewhere, taken]
        rfl
      · rw [more, List.map_append, List.map_singleton] at calls
        obtain ⟨earlier, answer, middle, between, callsBefore, called, all⟩ :=
          runChecks_concat_iff.mp calls
        have length := runChecks_length callsBefore
        rw [List.length_map] at length
        have agree : ∀ checked login, checked.length < earlier.length →
            recorded last.answers checked login = recorded earlier checked login := by
          intro checked login within
          rw [all]
          exact recorded_append_left [answer] within login
        have first := @inductionHypothesis ⟨server, middle, between, earlier⟩
          (run_of_agree agree before (Nat.le_of_eq length.symm)) callsBefore
        rw [first, Option.bind_some, TransitionSystem.run_singleton]
        show Deployment.step api site rounds _ .processRequest = some last
        rw [step_check place, callCheck, called, Option.bind_some]
        simp only [← all, taken, Option.map_some]

/-- A deployment runs exactly like its server whose checks return what calls of
`checkLoginRequest` made one after the other return, whatever SQLite does and
however the threads interleave. -/
theorem run_iff_server :
    (system api site rounds begins).run ⟨boot crypto, database, world, []⟩ steps = some last ↔
      (Server.system (site.config (recorded last.answers))).run (boot crypto) steps =
          some last.server ∧
        runChecks api rounds (last.server.checked.map Queued.login) database world =
          some (last.answers, last.database, last.world) :=
  ⟨server_of_run, fun both => run_of_server both.1 both.2⟩

end

theorem reachable_server {begins : World → Prop} {deployment : Deployment Peer Stmt World}
    (reached : (system api site rounds begins).Reachable deployment) :
    (Server.system (site.config (recorded deployment.answers))).Reachable deployment.server := by
  obtain ⟨start, steps, ⟨crypto, opened, dirty, world, -, rfl⟩, ran⟩ := reached.exists_run
  have boots : (Server.system (site.config (recorded deployment.answers))).Reachable
      (boot crypto) := .start ⟨crypto, rfl⟩
  exact boots.of_run (server_of_run ran).1

end Deployment

end LicensingServer
