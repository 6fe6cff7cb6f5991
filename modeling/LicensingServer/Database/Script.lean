import LicensingServer.Database.Lookups
import LicensingServer.Foundations.TransitionSystem
import Mathlib.Data.List.Induction

/-!
Owns a SQLite world whose every answer is given in advance: what each prepare,
bind and step call answers, a log of the calls made, which statement the log
leaves live, and the states that lookups can leave a `Database` in over such a
world.

Does not own what a lookup returns there.
-/

set_option autoImplicit false

namespace LicensingServer

open LicensingServer.Foundations

/-- What SQLite answers about one statement: when it is prepared, when it is
asked for a parameter, and at each call that binds or steps it. -/
structure Answers where
  prepare : PrepareResult Unit
  index : Bytes → Nat
  bind : Nat → Bool
  step : Nat → StepResult

/-- A call and what it answered. A statement goes by the number of prepare calls
before its own. -/
inductive Call
  | prepare (sql : Bytes) (compiled : Option Nat)
  | bind (stmt index : Nat) (value : SqlValue) (bound : Bool)
  | step (stmt : Nat) (result : StepResult)
  | finalize (stmt : Nat)
deriving DecidableEq

namespace Call

def isPrepare : Call → Bool
  | .prepare _ _ => true
  | _ => false

def isBind (stmt : Nat) : Call → Bool
  | .bind other _ _ _ => other == stmt
  | _ => false

def isStep (stmt : Nat) : Call → Bool
  | .step other _ => other == stmt
  | _ => false

/-- The statement that a call is about. -/
def stmt : Call → Option Nat
  | .prepare _ compiled => compiled
  | .bind stmt _ _ _ => some stmt
  | .step stmt _ => some stmt
  | .finalize stmt => some stmt

/-- Which statement is live after a call, given which one was before. There is
no answer when a statement is prepared while another one is live, or when a
call is made on a statement that is not live. -/
def replay : Option Nat → Call → Option (Option Nat)
  | none, .prepare _ compiled => some compiled
  | some live, .bind stmt _ _ _ => if stmt = live then some (some live) else none
  | some live, .step stmt _ => if stmt = live then some (some live) else none
  | some live, .finalize stmt => if stmt = live then some none else none
  | _, _ => none

end Call

/-- The statement that a log of calls leaves live. -/
def replay (calls : List Call) : Option (Option Nat) := calls.foldlM Call.replay none

theorem replay_concat {calls : List Call} {live : Option Nat} (before : replay calls = some live)
    (call : Call) : replay (calls ++ [call]) = Call.replay live call := by
  unfold replay at before ⊢
  rw [List.foldlM_append, before]
  simp

/-- The answers to come, and the calls made so far. -/
structure ScriptWorld where
  answers : Nat → Answers
  calls : List Call

namespace ScriptWorld

def record (world : ScriptWorld) (call : Call) : ScriptWorld :=
  { world with calls := world.calls ++ [call] }

@[simp] theorem record_answers (world : ScriptWorld) (call : Call) :
    (world.record call).answers = world.answers := rfl

@[simp] theorem record_calls (world : ScriptWorld) (call : Call) :
    (world.record call).calls = world.calls ++ [call] := rfl

/-- How many statements were prepared. -/
def prepared (world : ScriptWorld) : Nat := world.calls.countP Call.isPrepare

def bound (world : ScriptWorld) (stmt : Nat) : Nat := world.calls.countP (Call.isBind stmt)

def stepped (world : ScriptWorld) (stmt : Nat) : Nat := world.calls.countP (Call.isStep stmt)

end ScriptWorld

/-- SQLite as the script has it. -/
def scriptSqlite : Sqlite ScriptWorld Nat where
  prepare world sql :=
    match (world.answers world.prepared).prepare with
    | .ok _ => (world.record (.prepare sql (some world.prepared)), .ok world.prepared)
    | .busy => (world.record (.prepare sql none), .busy)
    | .error => (world.record (.prepare sql none), .error)
  bindParameterIndex world stmt name := (world.answers stmt).index name
  bind world stmt index value :=
    let bound := (world.answers stmt).bind (world.bound stmt)
    (world.record (.bind stmt index value bound), bound)
  step world stmt :=
    let result := (world.answers stmt).step (world.stepped stmt)
    (world.record (.step stmt result), result)
  finalize world stmt := world.record (.finalize stmt)

/-! ### What every member keeps -/

namespace Database

/-- Every statement in the log was prepared before. -/
def Numbered (world : ScriptWorld) : Prop :=
  ∀ call ∈ world.calls, ∀ stmt, call.stmt = some stmt → stmt < world.prepared

/-- The wrapper holds exactly the statement that is live. -/
structure Holds (wrapper : Csqliter Nat) (world : ScriptWorld) : Prop where
  options : wrapper.options = .initial
  closed : wrapper.db = false → wrapper.litestmnt = none
  replayed : replay world.calls = some wrapper.litestmnt
  numbered : Numbered world

/-- It holds none that was prepared for an earlier text. -/
structure Tidy (wrapper : Csqliter Nat) (world : ScriptWorld) : Prop extends
    Holds wrapper world where
  uncompiled : wrapper.statementdirty = true → wrapper.litestmnt = none

theorem tidy_initial (opened dirty : Bool) (answers : Nat → Answers) :
    Tidy (initial opened dirty) ⟨answers, []⟩ where
  options := rfl
  closed _ := rfl
  uncompiled _ := rfl
  replayed := rfl
  numbered := by
    intro call member
    cases member

variable {wrapper : Csqliter Nat} {world : ScriptWorld}

theorem numbered_record (numbered : Numbered world) {call : Call}
    (known : ∀ stmt, call.stmt = some stmt → stmt < (world.record call).prepared) :
    Numbered (world.record call) := by
  have grows : world.prepared ≤ (world.record call).prepared := by
    simp [ScriptWorld.prepared, List.countP_append]
  intro other member stmt about
  rcases List.mem_append.mp member with old | new
  · exact Nat.lt_of_lt_of_le (numbered other old stmt about) grows
  · rw [List.mem_singleton.mp new] at about
    exact known stmt about

/-- The live statement was prepared. -/
theorem live_lt_prepared {calls : List Call} {answers : Nat → Answers}
    (numbered : Numbered ⟨answers, calls⟩) {stmt : Nat} (live : replay calls = some (some stmt)) :
    stmt < (ScriptWorld.mk answers calls).prepared := by
  induction calls using List.reverseRecOn generalizing stmt with
  | nil => cases live
  | append_singleton calls call _ =>
      apply numbered call (by simp)
      unfold replay at live
      rw [List.foldlM_append] at live
      rcases Option.bind_eq_some_iff.mp live with ⟨before, -, last⟩
      rcases before with _ | before
      · cases call <;> simp_all [Call.replay, Call.stmt]
      · cases call <;> simp_all [Call.replay, Call.stmt]

/-- A call on the live statement leaves it live. -/
theorem Holds.record_live (holds : Holds wrapper world) {stmt : Nat}
    (live : wrapper.litestmnt = some stmt) {call : Call}
    (about : call.stmt = some stmt) (stays : Call.replay (some stmt) call = some (some stmt)) :
    Holds wrapper (world.record call) := by
  have replayed := holds.replayed
  rw [live] at replayed
  refine ⟨holds.options, holds.closed, ?_, ?_⟩
  · rw [ScriptWorld.record_calls, replay_concat replayed, stays, live]
  · apply numbered_record holds.numbered
    intro other same
    have below := live_lt_prepared holds.numbered replayed
    have sameStmt : stmt = other := Option.some.inj (about.symm.trans same)
    simp only [ScriptWorld.prepared, ScriptWorld.record_calls, List.countP_append] at below ⊢
    omega

theorem Holds.opened_of_live (holds : Holds wrapper world) {stmt : Nat}
    (live : wrapper.litestmnt = some stmt) : wrapper.db = true := by
  by_contra closed
  have none := holds.closed (by simpa using closed)
  rw [none] at live
  cases live

theorem Holds.finalizestatement (holds : Holds wrapper world) :
    Holds (Csqliter.finalizestatement scriptSqlite wrapper world).1
        (Csqliter.finalizestatement scriptSqlite wrapper world).2 ∧
      (Csqliter.finalizestatement scriptSqlite wrapper world).1.litestmnt = none ∧
      (Csqliter.finalizestatement scriptSqlite wrapper world).1.statementdirty =
        wrapper.statementdirty := by
  cases live : wrapper.litestmnt with
  | none =>
      rw [Csqliter.finalizestatement_of_none scriptSqlite live]
      exact ⟨⟨holds.options, holds.closed, holds.replayed, holds.numbered⟩, live, rfl⟩
  | some stmt =>
      rw [Csqliter.finalizestatement_of_live scriptSqlite (holds.opened_of_live live) live]
      have replayed := holds.replayed
      rw [live] at replayed
      refine ⟨⟨holds.options, fun _ => rfl, ?_, ?_⟩, rfl, rfl⟩
      · show replay (world.calls ++ [.finalize stmt]) = some none
        rw [replay_concat replayed]
        simp [Call.replay]
      · apply numbered_record holds.numbered
        intro other same
        have below := live_lt_prepared holds.numbered replayed
        have sameStmt : stmt = other := Option.some.inj same
        simp only [ScriptWorld.prepared, ScriptWorld.record_calls, List.countP_append] at below ⊢
        omega

theorem Holds.prepare (holds : Holds wrapper world) (idle : wrapper.litestmnt = none)
    (sql : Bytes) (compiled : Bool) :
    replay (world.record (.prepare sql (if compiled then some world.prepared else none))).calls =
        some (if compiled then some world.prepared else none) ∧
      Numbered (world.record (.prepare sql (if compiled then some world.prepared else none))) := by
  have replayed := holds.replayed
  rw [idle] at replayed
  constructor
  · rw [ScriptWorld.record_calls, replay_concat replayed]
    rfl
  · apply numbered_record holds.numbered
    intro stmt about
    have same : world.prepared = stmt := by
      cases compiled with
      | true => exact Option.some.inj about
      | false => cases about
    simp only [ScriptWorld.prepared, ScriptWorld.record_calls, List.countP_append,
      List.countP_singleton, Call.isPrepare, if_true] at same ⊢
    omega

theorem Holds.compilesql (holds : Holds wrapper world) (idle : wrapper.litestmnt = none) :
    Holds (Csqliter.compilesql scriptSqlite wrapper world).2.1
      (Csqliter.compilesql scriptSqlite wrapper world).2.2 := by
  unfold Csqliter.compilesql
  cases opened : wrapper.db with
  | false => exact holds
  | true =>
      rw [if_neg (by simp)]
      split_ifs
      · exact holds
      · simp only [scriptSqlite]
        cases (world.answers world.prepared).prepare with
        | ok _ =>
            rcases holds.prepare idle wrapper.stmntsql true with ⟨replayed, numbered⟩
            exact ⟨holds.options, fun closed => absurd closed (by simp), replayed, numbered⟩
        | busy =>
            rcases holds.prepare idle wrapper.stmntsql false with ⟨replayed, numbered⟩
            exact ⟨holds.options, fun _ => rfl, replayed, numbered⟩
        | error =>
            rcases holds.prepare idle wrapper.stmntsql false with ⟨replayed, numbered⟩
            exact ⟨holds.options, fun _ => rfl, replayed, numbered⟩

theorem Holds.bindparameters (holds : Holds wrapper world) {stmt : Nat}
    (live : wrapper.litestmnt = some stmt) (db : Bool) (params : List CdbParameter) :
    Holds wrapper (Csqliter.bindparameters scriptSqlite db stmt params world).2 := by
  induction params generalizing world with
  | nil => exact holds
  | cons param rest inductionHypothesis =>
      have kept : Holds wrapper (Csqliter.bindparameter scriptSqlite db stmt param world).2 := by
        unfold Csqliter.bindparameter
        simp only
        split_ifs
        · exact holds
        · exact holds
        · apply holds.record_live live rfl
          simp [Call.replay]
      rw [Csqliter.bindparameters]
      rcases bound : Csqliter.bindparameter scriptSqlite db stmt param world with ⟨success, next⟩
      rw [bound] at kept
      cases success with
      | true => exact inductionHypothesis kept
      | false => exact kept

/-- Where the statement could not be compiled, there is none. -/
theorem Holds.compilestatement (holds : Holds wrapper world) (idle : wrapper.litestmnt = none) :
    Holds (Csqliter.compilestatement scriptSqlite wrapper world).2.1
        (Csqliter.compilestatement scriptSqlite wrapper world).2.2 ∧
      ((Csqliter.compilestatement scriptSqlite wrapper world).1 ≠ .successdb →
        (Csqliter.compilestatement scriptSqlite wrapper world).2.1.litestmnt = none) := by
  have compiled := holds.compilesql idle
  unfold Csqliter.compilestatement
  generalize Csqliter.compilesql scriptSqlite wrapper world = answer at compiled ⊢
  rcases answer with ⟨result, wrapper', world'⟩
  have finalized := compiled.finalizestatement
  cases result with
  | successdb =>
      cases live : wrapper'.litestmnt with
      | none =>
          simp only [live]
          exact ⟨compiled, fun failed => absurd rfl failed⟩
      | some stmt =>
          have kept := compiled.bindparameters live wrapper'.db wrapper'.valsin
          simp only [live]
          generalize Csqliter.bindparameters scriptSqlite wrapper'.db stmt wrapper'.valsin world' =
            bound at kept ⊢
          rcases bound with ⟨success, next⟩
          cases success with
          | true => exact ⟨kept, fun failed => absurd rfl failed⟩
          | false => exact ⟨kept.finalizestatement.1, fun _ => kept.finalizestatement.2.1⟩
  | _ => exact ⟨finalized.1, fun _ => finalized.2.1⟩

theorem Holds.stepstatement (holds : Holds wrapper world) :
    Holds (Csqliter.stepstatement scriptSqlite wrapper world).2.1
        (Csqliter.stepstatement scriptSqlite wrapper world).2.2 ∧
      (Csqliter.stepstatement scriptSqlite wrapper world).2.1.statementdirty =
        wrapper.statementdirty := by
  unfold Csqliter.stepstatement
  cases opened : wrapper.db with
  | false => exact ⟨holds, rfl⟩
  | true =>
      rw [if_neg (by simp)]
      cases live : wrapper.litestmnt with
      | none => exact ⟨holds, rfl⟩
      | some stmt =>
          have stepped : Holds wrapper (scriptSqlite.step world stmt).1 := by
            apply holds.record_live live rfl
            simp [Call.replay]
          simp only
          generalize scriptSqlite.step world stmt = answer at stepped ⊢
          rcases answer with ⟨next, result⟩
          cases result with
          | row columns =>
              simp only
              split_ifs
              · exact ⟨stepped, rfl⟩
              · have replayed := stepped.replayed
                rw [live] at replayed
                exact ⟨⟨stepped.options, fun closed => absurd closed (by simp), replayed,
                  stepped.numbered⟩, rfl⟩
          | _ => exact ⟨stepped, rfl⟩

theorem Holds.runcompiled (holds : Holds wrapper world) :
    Holds (Csqliter.runcompiled scriptSqlite wrapper world).2.1
        (Csqliter.runcompiled scriptSqlite wrapper world).2.2 ∧
      (Csqliter.runcompiled scriptSqlite wrapper world).2.1.statementdirty =
        wrapper.statementdirty := by
  rcases holds.stepstatement with ⟨stepped, dirty⟩
  unfold Csqliter.runcompiled
  generalize Csqliter.stepstatement scriptSqlite wrapper world = answer at stepped dirty ⊢
  rcases answer with ⟨result, wrapper', world'⟩
  rcases stepped.finalizestatement with ⟨finalized, -, sameDirty⟩
  cases result with
  | successdb => exact ⟨finalized, sameDirty.trans dirty⟩
  | _ => exact ⟨stepped, dirty⟩

theorem Tidy.runstep (tidy : Tidy wrapper world) :
    Tidy (Csqliter.runstep scriptSqlite wrapper world).2.1
      (Csqliter.runstep scriptSqlite wrapper world).2.2 := by
  unfold Csqliter.runstep
  cases dirty : wrapper.statementdirty with
  | false =>
      rcases tidy.toHolds.runcompiled with ⟨kept, same⟩
      refine ⟨kept, ?_⟩
      intro stillDirty
      rw [if_neg (by simp), same, dirty] at stillDirty
      cases stillDirty
  | true =>
      rcases tidy.toHolds.compilestatement (tidy.uncompiled dirty) with ⟨kept, failed⟩
      rw [if_pos rfl]
      generalize Csqliter.compilestatement scriptSqlite wrapper world = answer at kept failed ⊢
      rcases answer with ⟨result, wrapper', world'⟩
      cases result with
      | successdb =>
          have clean : Holds { wrapper' with statementdirty := false } world' :=
            ⟨kept.options, kept.closed, kept.replayed, kept.numbered⟩
          rcases clean.runcompiled with ⟨ran, same⟩
          refine ⟨ran, ?_⟩
          intro stillDirty
          exact absurd (same.symm.trans stillDirty) (by simp)
      | _ => exact ⟨kept, fun _ => failed (by simp)⟩

theorem Tidy.query (tidy : Tidy wrapper world) (sql clientID : Bytes) :
    Tidy (Database.query scriptSqlite sql clientID wrapper world).1
      (Database.query scriptSqlite sql clientID wrapper world).2 := by
  rcases tidy.toHolds.finalizestatement with ⟨finalized, idle, -⟩
  exact ⟨⟨finalized.options, finalized.closed, finalized.replayed, finalized.numbered⟩,
    fun _ => idle⟩

/-! ### Histories -/

theorem Tidy.getUserLicenseType (tidy : Tidy wrapper world) (clientID : Bytes) :
    Tidy (Database.getUserLicenseType scriptSqlite clientID wrapper world).2.1
      (Database.getUserLicenseType scriptSqlite clientID wrapper world).2.2 := by
  have stepped := (tidy.query licenseTypeSql clientID).runstep
  unfold Database.getUserLicenseType
  simp only
  generalize Csqliter.runstep scriptSqlite _ _ = answer at stepped ⊢
  rcases answer with ⟨result, wrapper', world'⟩
  cases result <;> exact stepped

theorem Tidy.readValidIPs (tidy : Tidy wrapper world) {rounds : Nat} {ips : List Bytes}
    {wrapper' : Csqliter Nat} {world' : ScriptWorld}
    (read : Database.readValidIPs scriptSqlite rounds wrapper world =
      some (ips, wrapper', world')) : Tidy wrapper' world' := by
  induction rounds generalizing wrapper world ips with
  | zero => cases read
  | succ rounds inductionHypothesis =>
      have stepped := tidy.runstep
      unfold Database.readValidIPs at read
      generalize Csqliter.runstep scriptSqlite wrapper world = answer at stepped read
      rcases answer with ⟨result, nextWrapper, nextWorld⟩
      cases result with
      | rowresultdb =>
          rcases Option.map_eq_some_iff.mp read with ⟨⟨more, last⟩, later, same⟩
          cases same
          exact inductionHypothesis stepped later
      | _ =>
          cases read
          exact stepped

theorem Tidy.getUserValidIPs (tidy : Tidy wrapper world) {rounds : Nat} {clientID : Bytes}
    {ips : List Bytes} {wrapper' : Csqliter Nat} {world' : ScriptWorld}
    (read : Database.getUserValidIPs scriptSqlite rounds clientID wrapper world =
      some (ips, wrapper', world')) : Tidy wrapper' world' :=
  (tidy.query validIPSql clientID).readValidIPs read

/-- A call of one of the two lookups; the second with a bound on its loop. -/
inductive Lookup
  | userLicenseType (clientID : Bytes)
  | userValidIPs (clientID : Bytes) (rounds : Nat)

/-- What a lookup returns, and what it leaves behind. -/
def Lookup.run (wrapper : Csqliter Nat) (world : ScriptWorld) :
    Lookup → Option ((Bytes ⊕ List Bytes) × Csqliter Nat × ScriptWorld)
  | .userLicenseType clientID =>
      let (licenseType, rest) := getUserLicenseType scriptSqlite clientID wrapper world
      some (.inl licenseType, rest)
  | .userValidIPs clientID rounds =>
      (getUserValidIPs scriptSqlite rounds clientID wrapper world).map fun (ips, rest) =>
        (.inr ips, rest)

/-- A constructed `Database` and the lookups made on it, whatever SQLite
answers. -/
def histories : TransitionSystem (Csqliter Nat × ScriptWorld) Lookup where
  initial state := ∃ opened dirty answers, state = (initial opened dirty, ⟨answers, []⟩)
  step state lookup := (lookup.run state.1 state.2).map Prod.snd

theorem tidy_of_reachable {state : Csqliter Nat × ScriptWorld}
    (reached : histories.Reachable state) : Tidy state.1 state.2 := by
  apply reached.invariant fun state => Tidy state.1 state.2
  · intro state start
    rcases start with ⟨opened, dirty, answers, rfl⟩
    exact tidy_initial opened dirty answers
  · intro state lookup next tidy taken
    rcases Option.map_eq_some_iff.mp taken with ⟨⟨value, rest⟩, ran, rfl⟩
    cases lookup with
    | userLicenseType clientID =>
        cases ran
        exact tidy.getUserLicenseType clientID
    | userValidIPs clientID rounds =>
        rcases Option.map_eq_some_iff.mp ran with ⟨⟨ips, last⟩, read, same⟩
        cases same
        exact tidy.getUserValidIPs read

end Database

end LicensingServer
