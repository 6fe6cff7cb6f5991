import LicensingServer.Deployment.System
import LicensingServer.Server.ReplyKeys
import LicensingServer.Authorization.Outcomes

/-!
Owns where the accepting results of a deployment come from: whatever SQLite
answers and however the threads interleave, each has a license query of its own
in the SQLite log, for its own client ID, that found a row of type `Group`. The
ID and the type are read up to their first zero byte.

Does not own whether such a row entitles the client.
-/

set_option autoImplicit false

namespace LicensingServer

open LicensingServer.Foundations

namespace Authorization

open Database

/-! ### One check -/

/-- The log shows this statement to be a license query for the client ID up to its
first zero byte, and one that found a row whose type reads `Group` up to its own. -/
structure Licensed (calls : List Call) (clientID : Bytes) (stmt : Nat) : Prop where
  prepared : .prepare licenseTypeSql (some stmt) ∈ calls
  bound : ∃ index, .bind stmt index (.text (cString clientID)) true ∈ calls
  found : ∃ columns, .step stmt (.row columns) ∈ calls ∧ readRow columns = some groupLicense

theorem Licensed.mono {calls later : List Call} {clientID : Bytes} {stmt : Nat}
    (licensed : Licensed calls clientID stmt) (grows : calls ⊆ later) :
    Licensed later clientID stmt := by
  obtain ⟨prepared, ⟨index, bound⟩, columns, stepped, reads⟩ := licensed
  exact ⟨grows prepared, ⟨index, grows bound⟩, columns, grows stepped, reads⟩

variable {wrapper : Csqliter Nat} {world : ScriptWorld} {req : LoginRequest} {rounds : Nat}
  {answer : Except Exception Bool} {after : Csqliter Nat} {last : ScriptWorld}

/-- The address lookup adds to the log. -/
theorem Consults.calls_prefix {middle : Csqliter Nat} {between : ScriptWorld}
    (consults : Consults wrapper world req middle between) {ips : List Bytes}
    (read : getUserValidIPs scriptSqlite rounds req.clientID middle between =
      some (ips, after, last)) : between.calls <+: last.calls := by
  rcases consults.addresses read with ⟨-, count, -, -, stepped⟩ | ⟨-, skipped⟩
  · obtain ⟨calls, later, -⟩ := stepped.segment
    rw [later]
    exact List.prefix_append _ _
  · obtain ⟨calls, later, -⟩ := skipped.segment
    rw [later]
    exact List.prefix_append _ _

/-- The lookups of a check add to the log. -/
theorem calls_prefix_of_checked (tidy : Tidy wrapper world)
    (called : checkLoginRequest scriptSqlite rounds req wrapper world =
      some (answer, after, last)) : world.calls <+: last.calls := by
  by_cases group : ReadsGroup wrapper world
  · obtain ⟨middle, between, consults⟩ := exists_consults tidy req group
    obtain ⟨first, made, -⟩ := consults.stepped.segment
    rw [checkLoginRequest_of_consults consults rounds] at called
    obtain ⟨⟨ips, rest⟩, read, same⟩ := Option.map_eq_some_iff.mp called
    obtain ⟨-, rfl⟩ := Prod.mk.inj same
    have earlier : world.calls <+: between.calls := by
      rw [made]
      exact List.prefix_append _ _
    exact earlier.trans (consults.calls_prefix read)
  · rcases checkLoginRequest_of_not_group tidy group called with
      ⟨-, ⟨-, stepped⟩ | ⟨-, skipped⟩⟩
    · obtain ⟨calls, made, -⟩ := stepped.segment
      rw [made]
      exact List.prefix_append _ _
    · obtain ⟨calls, made, -⟩ := skipped.segment
      rw [made]
      exact List.prefix_append _ _

/-- A check leaves the wrapper with what it holds. -/
theorem tidy_of_checked (tidy : Tidy wrapper world)
    (called : checkLoginRequest scriptSqlite rounds req wrapper world =
      some (answer, after, last)) : Tidy after last := by
  have asked := tidy.getUserLicenseType req.clientID
  unfold checkLoginRequest at called
  generalize Database.getUserLicenseType scriptSqlite req.clientID wrapper world = found
    at asked called
  obtain ⟨licenseType, nextWrapper, nextWorld⟩ := found
  simp only [ite_self] at called
  split_ifs at called
  · obtain ⟨⟨ips, rest⟩, read, same⟩ := Option.map_eq_some_iff.mp called
    obtain ⟨-, rfl⟩ := Prod.mk.inj same
    exact asked.getUserValidIPs read
  · obtain ⟨-, same⟩ := Prod.mk.inj (Option.some.inj called)
    obtain ⟨rfl, rfl⟩ := Prod.mk.inj same
    exact asked
  · obtain ⟨-, same⟩ := Prod.mk.inj (Option.some.inj called)
    obtain ⟨rfl, rfl⟩ := Prod.mk.inj same
    exact asked

/-- A check that accepts has found a license with the next statement. -/
theorem licensed_of_accepted (tidy : Tidy wrapper world)
    (called : checkLoginRequest scriptSqlite rounds req wrapper world =
      some (.ok true, after, last)) : Licensed last.calls req.clientID world.prepared := by
  have group : ReadsGroup wrapper world := by
    by_contra none
    exact absurd rfl (checkLoginRequest_of_not_group tidy none called).1
  obtain ⟨middle, between, consults⟩ := exists_consults tidy req group
  rw [checkLoginRequest_of_consults consults rounds] at called
  obtain ⟨⟨ips, rest⟩, read, same⟩ := Option.map_eq_some_iff.mp called
  obtain ⟨-, rfl⟩ := Prod.mk.inj same
  have here : Licensed between.calls req.clientID world.prepared := by
    obtain ⟨owed, made, -⟩ := consults.stepped.calls
    obtain ⟨columns, stepped, reads⟩ : ∃ columns,
        (world.answers world.prepared).step 0 = .row columns ∧ readRow columns = some groupLicense := by
      have text := group.2
      unfold licenseAnswers Answers.text at text
      split at text
      · rename_i columns found
        exact ⟨columns, found, text⟩
      · cases text
    rw [made]
    refine ⟨?_, ⟨(world.answers world.prepared).index (ascii ":clientID"), ?_⟩, columns, ?_, reads⟩
    · simp [compileCalls]
    · simp [compileCalls]
    · simp [stepCalls, stepped]
  exact here.mono (consults.calls_prefix read).subset

/-! ### A series of checks -/

/-- The outcome lets the client in. -/
def accepts : Except Exception Bool → Bool
  | .ok true => true
  | _ => false

/-- The requests that are let in. -/
def accepted (requests : List LoginRequest) (answers : List (Except Exception Bool)) :
    List LoginRequest :=
  ((requests.zip answers).filter fun pair => accepts pair.2).map Prod.fst

theorem accepted_cons (req : LoginRequest) (requests : List LoginRequest)
    (answer : Except Exception Bool) (answers : List (Except Exception Bool)) :
    accepted (req :: requests) (answer :: answers) =
      if accepts answer then req :: accepted requests answers else accepted requests answers := by
  unfold accepted
  rw [List.zip_cons_cons, List.filter_cons]
  split_ifs <;> rfl

/-- These statements are the license queries of these requests, one for each, in
the order of the requests, from a given one on. -/
structure LicensedBy (calls : List Call) (first : Nat) (requests : List LoginRequest)
    (stmts : List Nat) : Prop where
  licensed : List.Forall₂ (fun (req : LoginRequest) stmt => Licensed calls req.clientID stmt)
    requests stmts
  increasing : stmts.Pairwise (· < ·)
  notBefore : ∀ stmt ∈ stmts, first ≤ stmt

theorem prepared_le_of_prefix {earlier later : ScriptWorld} (grows : earlier.calls <+: later.calls) :
    earlier.prepared ≤ later.prepared :=
  grows.sublist.countP_le

/-- Each request that is let in has a license query of its own. -/
theorem licensedBy_of_runChecks {requests : List LoginRequest}
    {answers : List (Except Exception Bool)} (tidy : Tidy wrapper world)
    (ran : Deployment.runChecks scriptSqlite rounds requests wrapper world =
      some (answers, after, last)) :
    world.calls <+: last.calls ∧
      ∃ stmts, LicensedBy last.calls world.prepared (accepted requests answers) stmts := by
  induction requests generalizing wrapper world answers with
  | nil =>
      obtain ⟨rfl, same⟩ := Prod.mk.inj (Option.some.inj ran)
      obtain ⟨rfl, rfl⟩ := Prod.mk.inj same
      exact ⟨List.prefix_refl _, [], .nil, .nil, fun stmt member => by cases member⟩
  | cons req rest inductionHypothesis =>
      obtain ⟨⟨answer, middle, between⟩, called, more⟩ := Option.bind_eq_some_iff.mp ran
      obtain ⟨⟨others, final⟩, tail, same⟩ := Option.map_eq_some_iff.mp more
      obtain ⟨rfl, rfl⟩ := Prod.mk.inj same
      have grows := calls_prefix_of_checked tidy called
      have tidyMiddle := tidy_of_checked tidy called
      obtain ⟨growsMore, stmts, licensed, increasing, notBefore⟩ :=
        inductionHypothesis tidyMiddle tail
      have step := prepared_le_of_prefix grows
      refine ⟨grows.trans growsMore, ?_⟩
      rw [accepted_cons]
      by_cases accepting : accepts answer = true
      · rw [if_pos accepting]
        have yes : answer = .ok true := by
          unfold accepts at accepting
          split at accepting
          · rfl
          · cases accepting
        subst yes
        have own := licensed_of_accepted tidy called
        have numbered := tidyMiddle.numbered _ own.prepared world.prepared rfl
        refine ⟨world.prepared :: stmts, .cons (own.mono growsMore.subset) licensed, ?_, ?_⟩
        · apply List.pairwise_cons.mpr
          refine ⟨?_, increasing⟩
          intro stmt member
          have bound := notBefore stmt member
          omega
        · intro stmt member
          rcases List.mem_cons.mp member with rfl | isLater
          · exact Nat.le_refl _
          · have bound := notBefore stmt isLater
            omega
      · rw [if_neg accepting]
        refine ⟨stmts, licensed, increasing, ?_⟩
        intro stmt member
        have bound := notBefore stmt member
        omega

end Authorization

/-- The outcome that a thread holds and has not encrypted. -/
def ProcessThread.judged : ProcessThread → List (Queued × Except Exception Bool)
  | .encrypt req isValid => [(req, .ok isValid)]
  | _ => []

namespace Deployment

open Server

variable {Peer World Stmt : Type} {api : Sqlite World Stmt} {site : Site Peer} {rounds : Nat}
  {begins : World → Prop}

/-! ### Results and outcomes -/

/-- The outcomes behind the results, the one in hand included. -/
def judged (server : Server Peer) : List (Queued × Except Exception Bool) :=
  server.encrypted.map (fun sealed => (sealed.queued, .ok sealed.isValid)) ++ server.process.judged

/-- Each result stands for the outcome of its own check; only a check that throws
has no result. -/
def Judges (deployment : Deployment Peer Stmt World) : Prop :=
  ∃ failed, deployment.server.checked.zip deployment.answers =
      judged deployment.server ++ failed ∧
    (deployment.server.terminated = none → failed = [])

/-- A step that checks no request leaves the outcomes alone. -/
theorem judged_of_elsewhere {config : Config Peer} {server next : Server Peer} {who : Step Peer}
    (taken : (Server.system config).step server who = some next)
    (elsewhere : who = .processRequest → ∀ req, server.process ≠ .check req) :
    judged next = judged server ∧ next.checked = server.checked := by
  unfold judged
  rcases Server.step_cases taken with ⟨-, ⟨message, -, rfl⟩ | ⟨-, waits⟩ | ⟨rfl, processes⟩⟩
  · exact ⟨rfl, rfl⟩
  · have leaves := waits.leavesProcess
    rw [leaves.encrypted, leaves.process]
    exact ⟨rfl, leaves.checked⟩
  · cases processes with
    | checkFails place | check place => exact absurd place (elsewhere rfl _)
    | spin | frontOfEmpty | popOfEmpty | encryptFails => exact ⟨rfl, rfl⟩
    | encrypt place =>
        rw [place]
        simp [ProcessThread.judged]
    | _ place =>
        rw [place]
        exact ⟨rfl, rfl⟩

theorem judges_of_reachable {deployment : Deployment Peer Stmt World}
    (reached : (system api site rounds begins).Reachable deployment) :
    deployment.answers.length = deployment.server.checked.length ∧ Judges deployment := by
  induction reached with
  | initial start =>
      obtain ⟨crypto, opened, dirty, world, -, rfl⟩ := start
      exact ⟨rfl, [], rfl, fun _ => rfl⟩
  | @step before next who _ _ taken inductionHypothesis =>
      obtain ⟨length, failed, outcomes, none⟩ := inductionHypothesis
      cases moves_of_step taken with
      | other elsewhere stepped =>
          obtain ⟨same, sameChecked⟩ := judged_of_elsewhere stepped elsewhere
          have alive := (Server.step_cases stepped).1
          refine ⟨by rw [sameChecked]; exact length, failed, ?_, fun _ => none alive⟩
          rw [same, sameChecked]
          exact outcomes
      | @check req answer server _ _ isProcess place called stepped =>
          subst isProcess
          have alive := (Server.step_cases stepped).1
          obtain rfl := none alive
          rw [List.append_nil] at outcomes
          have asked : (before.server.checked.map Queued.login).length = before.answers.length := by
            rw [List.length_map, length]
          rcases Server.step_cases stepped with
            ⟨-, ⟨message, other, -⟩ | ⟨other, -⟩ | ⟨-, processes⟩⟩
          · cases other
          · cases other
          · have zipped (checked : Queued) : (before.server.checked ++ [checked]).zip
                (before.answers ++ [answer]) = judged before.server ++ [(checked, answer)] := by
              rw [List.zip_append length.symm, outcomes]
              rfl
            cases processes with
            | @checkFails other what otherPlace thrown =>
                obtain rfl : req = other := ProcessThread.check.inj (place.symm.trans otherPlace)
                refine ⟨by simp [length], [(req, answer)], ?_, fun stillAlive => by cases stillAlive⟩
                exact zipped req
            | @check other isValid otherPlace done =>
                obtain rfl : req = other := ProcessThread.check.inj (place.symm.trans otherPlace)
                have outcome : answer = .ok isValid := by
                  rw [← done]
                  exact (recorded_concat answer asked req.login).symm
                refine ⟨by simp [length], [], ?_, fun _ => rfl⟩
                show (before.server.checked ++ [req]).zip (before.answers ++ [answer]) = _
                rw [zipped, outcome]
                simp [judged, place, ProcessThread.judged]
            | _ otherPlace => cases place.symm.trans otherPlace

/-- The accepting results are those of the first requests that are let in. -/
theorem accepting_prefix {deployment : Deployment Peer Stmt World} (judges : Judges deployment) :
    (deployment.server.encrypted.filter Sealed.isValid).map (fun sealed => sealed.queued.login) <+:
      Authorization.accepted (deployment.server.checked.map Queued.login) deployment.answers := by
  obtain ⟨failed, outcomes, -⟩ := judges
  unfold Authorization.accepted
  rw [List.zip_map_left, outcomes, judged, List.append_assoc, List.map_append, List.filter_append,
    List.map_append, List.map_map, List.filter_map, List.map_map]
  have same : ((fun pair : LoginRequest × Except Exception Bool =>
      Authorization.accepts pair.2) ∘ Prod.map Queued.login id ∘
        fun sealed : Sealed => (sealed.queued, (.ok sealed.isValid : Except Exception Bool))) =
      Sealed.isValid := by
    funext sealed
    rcases sealed with ⟨queued, _ | _, key, result⟩ <;> rfl
  rw [same]
  exact List.prefix_append _ _

/-- Whatever SQLite answers and however the threads interleave, each accepting
result of the server has a license query of its own, made for its client ID up to
the first zero byte, that found a row whose type reads `Group` up to its own; and
only such results are sent as accepting. -/
theorem accepting_results_licensed
    {deployment : Deployment Peer Nat ScriptWorld}
    (reached : (system scriptSqlite site rounds fun world => world.calls = []).Reachable
      deployment) :
    deployment.server.replied <+: deployment.server.encrypted ∧
      ∃ stmts, stmts.Pairwise (· < ·) ∧
        List.Forall₂ (fun sealed stmt =>
            Authorization.Licensed deployment.world.calls sealed.queued.login.clientID stmt)
          (deployment.server.encrypted.filter Sealed.isValid) stmts := by
  constructor
  · rw [encrypted_of_reachable (reachable_server reached)]
    exact List.prefix_append _ _
  · have accepting := accepting_prefix (judges_of_reachable reached).2
    obtain ⟨start, steps, ⟨crypto, opened, dirty, ⟨answers, calls⟩, empty, rfl⟩, ran⟩ :=
      reached.exists_run
    obtain rfl : calls = [] := empty
    have tidy := Database.tidy_initial opened dirty answers
    obtain ⟨-, stmts, licensed, increasing, -⟩ :=
      Authorization.licensedBy_of_runChecks tidy (server_of_run ran).2
    refine ⟨stmts.take (deployment.server.encrypted.filter Sealed.isValid).length,
      increasing.sublist (List.take_sublist _ _), ?_⟩
    have front := List.forall₂_take
      (deployment.server.encrypted.filter Sealed.isValid).length licensed
    rw [← List.length_map (fun sealed : Sealed => sealed.queued.login),
      ← List.prefix_iff_eq_take.mp accepting, List.length_map,
      List.forall₂_map_left_iff] at front
    exact front

/-! ### An accepted client -/

def sampleSite : Site Bool := ⟨sampleConfig.network, sampleConfig.lib, sampleConfig.draws⟩

/-- The sample server on a database whose queries all find a row `Group`. -/
def sampleDeployment : Deployment Bool Nat ScriptWorld :=
  ⟨boot .initial, Database.groupRows.1, Database.groupRows.2, []⟩

theorem sampleDeployment_accepts : ∃ deployment,
    (system scriptSqlite sampleSite 2 fun world => world.calls = []).run sampleDeployment
        (oneSession ++ List.replicate 9 .processRequest) = some deployment ∧
      deployment.server.replied.map Sealed.isValid = [true] := by
  apply TransitionSystem.ends_in
  decide +kernel

theorem accepting_results_licensed_sample : ∃ deployment : Deployment Bool Nat ScriptWorld,
    deployment.server.replied.map Sealed.isValid = [true] ∧
      deployment.server.replied <+: deployment.server.encrypted ∧
      ∃ stmts, stmts.Pairwise (· < ·) ∧
        List.Forall₂ (fun sealed stmt =>
            Authorization.Licensed deployment.world.calls sealed.queued.login.clientID stmt)
          (deployment.server.encrypted.filter Sealed.isValid) stmts := by
  obtain ⟨deployment, ran, accepted⟩ := sampleDeployment_accepts
  have start : (system scriptSqlite sampleSite 2 fun world => world.calls = []).Reachable
      sampleDeployment := .start ⟨.initial, true, false, Database.groupRows.2, rfl, rfl⟩
  exact ⟨deployment, accepted, accepting_results_licensed (start.of_run ran)⟩

end Deployment

end LicensingServer
