import LicensingServer.Database.History

/-!
Owns what the two lookups do over a script: the calls that each makes, which of
their answers end it, the value, and the statement that is left behind.

Does not own what a caller does with the value.
-/

set_option autoImplicit false

namespace LicensingServer

open LicensingServer.Foundations

namespace Answers

/-- The statement is prepared and its parameter bound. -/
def Compiles (answers : Answers) : Prop :=
  answers.prepare = .ok () ∧ answers.index (ascii ":clientID") ≠ 0 ∧ answers.bind 0 = true

/-- The text that the wrapper reads at a step, if the step finds a row and the
wrapper can read it. -/
def text (answers : Answers) (position : Nat) : Option Bytes :=
  match answers.step position with
  | .row columns => Database.readRow columns
  | _ => none

theorem text_of_row {answers : Answers} {position : Nat} {columns : List SqlValue}
    (found : answers.step position = .row columns) :
    answers.text position = Database.readRow columns := by
  rw [text, found]

theorem text_of_no_row {answers : Answers} {position : Nat}
    (missing : ∀ columns, answers.step position ≠ .row columns) : answers.text position = none := by
  unfold text
  split
  · exact absurd ‹_› (missing _)
  · rfl

end Answers

/-- A call that may belong to this statement for this text. -/
def Call.Belongs (sql : Bytes) (stmt : Nat) : Call → Prop
  | .prepare text compiled => text = sql ∧ ∀ other, compiled = some other → other = stmt
  | .bind _ _ _ _ => True
  | .step other _ => other = stmt
  | .finalize _ => True

namespace Database

variable {wrapper : Csqliter Nat} {world : ScriptWorld}

/-! ### Compiling -/

/-- Nothing in the log is about the next statement. -/
theorem Numbered.untouched (numbered : Numbered world) :
    world.stepped world.prepared = 0 ∧ world.bound world.prepared = 0 := by
  constructor
  · apply List.countP_eq_zero.mpr
    intro call member counted
    cases call with
    | step stmt result =>
        have below := numbered _ member stmt rfl
        simp only [Call.isStep, beq_iff_eq] at counted
        omega
    | _ => simp [Call.isStep] at counted
  · apply List.countP_eq_zero.mpr
    intro call member counted
    cases call with
    | bind stmt index value bound =>
        have below := numbered _ member stmt rfl
        simp only [Call.isBind, beq_iff_eq] at counted
        omega
    | _ => simp [Call.isBind] at counted

theorem Numbered.no_bind (numbered : Numbered world) (sql : Bytes) :
    (ScriptWorld.mk world.answers
      (world.calls ++ [.prepare sql (some world.prepared)])).bound world.prepared = 0 := by
  have untouched := numbered.untouched.2
  simpa [ScriptWorld.bound, List.countP_append, Call.isBind] using untouched

/-- A wrapper whose statement is compiled and live. -/
structure Stepping (wrapper : Csqliter Nat) (stmt : Nat) : Prop extends Expecting wrapper where
  opened : wrapper.db = true
  live : wrapper.litestmnt = some stmt
  compiled : wrapper.statementdirty = false

/-- The calls of a statement that compiles. -/
def compileCalls (answers : Answers) (sql clientID : Bytes) (stmt : Nat) : List Call :=
  [.prepare sql (some stmt),
    .bind stmt (answers.index (ascii ":clientID")) (.text (cString clientID)) true]

/-- The statement is compiled where every call succeeds. -/
theorem compilestatement_asked (sql clientID : Bytes) (nonempty : sql ≠ [])
    (opened : wrapper.db = true) (numbered : Numbered world)
    (compiles : (world.answers world.prepared).Compiles) :
    Csqliter.compilestatement scriptSqlite (asked sql clientID wrapper) world =
      (.successdb, { asked sql clientID wrapper with litestmnt := some world.prepared },
        { world with calls := world.calls ++
          compileCalls (world.answers world.prepared) sql clientID world.prepared }) := by
  have name : ascii ":" ++ ascii "clientID" = ascii ":clientID" := by decide
  have noBind := numbered.no_bind sql
  rcases compiles with ⟨prepares, named, binds⟩
  simp [Csqliter.compilestatement, Csqliter.compilesql, asked, opened, scriptSqlite, prepares,
    nonempty, Csqliter.bindparameters, Csqliter.bindparameter, clientIDParameter, name, named,
    noBind, binds, compileCalls, ScriptWorld.record, CdbVal.bound]

/-- Otherwise there is no statement, and no step was made. -/
theorem compilestatement_asked_fails (sql clientID : Bytes) (nonempty : sql ≠ [])
    (opened : wrapper.db = true) (numbered : Numbered world)
    (fails : ¬ (world.answers world.prepared).Compiles) :
    ∃ result left calls,
      Csqliter.compilestatement scriptSqlite (asked sql clientID wrapper) world =
        (result, left, { world with calls := world.calls ++ calls }) ∧
      result ≠ .successdb ∧ result ≠ .rowresultdb ∧ left.litestmnt = none ∧
      ∀ call ∈ calls, call.Belongs sql world.prepared ∧
        ∀ stmt result, call ≠ .step stmt result := by
  have name : ascii ":" ++ ascii "clientID" = ascii ":clientID" := by decide
  have noBind := numbered.no_bind sql
  -- why the statement does not compile decides which calls were made
  cases prepares : (world.answers world.prepared).prepare with
  | ok _ =>
      by_cases named : (world.answers world.prepared).index (ascii ":clientID") = 0
      · refine ⟨.binddberror,
          { asked sql clientID wrapper with valsin := [], valtypesout := [] },
          [.prepare sql (some world.prepared), .finalize world.prepared], ?_, by simp, by simp, rfl,
          by simp [Call.Belongs]⟩
        simp [Csqliter.compilestatement, Csqliter.compilesql, asked, opened, scriptSqlite,
          prepares, nonempty, Csqliter.bindparameters, Csqliter.bindparameter, clientIDParameter,
          name, named, Csqliter.finalizestatement, ScriptWorld.record]
      · have binds : (world.answers world.prepared).bind 0 = false := by
          by_contra bound
          exact fails ⟨prepares, named, by simpa using bound⟩
        refine ⟨.binddberror,
          { asked sql clientID wrapper with valsin := [], valtypesout := [] },
          [.prepare sql (some world.prepared),
            .bind world.prepared ((world.answers world.prepared).index (ascii ":clientID"))
              (.text (cString clientID)) false,
            .finalize world.prepared], ?_, by simp, by simp, rfl, by simp [Call.Belongs]⟩
        simp [Csqliter.compilestatement, Csqliter.compilesql, asked, opened, scriptSqlite,
          prepares, nonempty, Csqliter.bindparameters, Csqliter.bindparameter, clientIDParameter,
          name, named, noBind, binds, Csqliter.finalizestatement, ScriptWorld.record,
          CdbVal.bound]
  | busy =>
      refine ⟨.busydberror, { asked sql clientID wrapper with valsin := [], valtypesout := [] },
        [.prepare sql none], ?_, by simp, by simp, rfl, by simp [Call.Belongs]⟩
      simp [Csqliter.compilestatement, Csqliter.compilesql, asked, opened, scriptSqlite, prepares,
        nonempty, Csqliter.finalizestatement, ScriptWorld.record]
  | error =>
      refine ⟨.otherdberror, { asked sql clientID wrapper with valsin := [], valtypesout := [] },
        [.prepare sql none], ?_, by simp, by simp, rfl, by simp [Call.Belongs]⟩
      simp [Csqliter.compilestatement, Csqliter.compilesql, asked, opened, scriptSqlite, prepares,
        nonempty, Csqliter.finalizestatement, ScriptWorld.record]

/-- The wrapper once its statement is compiled. -/
def ready (sql clientID : Bytes) (wrapper : Csqliter Nat) (stmt : Nat) : Csqliter Nat :=
  { asked sql clientID wrapper with litestmnt := some stmt, statementdirty := false }

theorem stepping_ready (sql clientID : Bytes) (options : wrapper.options = .initial)
    (opened : wrapper.db = true) (stmt : Nat) :
    Stepping (ready sql clientID wrapper stmt) stmt where
  options := options
  types := rfl
  opened := opened
  live := rfl
  compiled := rfl

theorem runstep_of_stepping {stmt : Nat} (stepping : Stepping wrapper stmt) :
    Csqliter.runstep scriptSqlite wrapper world =
      Csqliter.runcompiled scriptSqlite wrapper world := by
  rw [Csqliter.runstep, stepping.compiled, if_neg (by simp)]

/-- The first `runstep` of a lookup goes on where the statement is compiled. -/
theorem runstep_asked (sql clientID : Bytes) (nonempty : sql ≠ []) (opened : wrapper.db = true)
    (numbered : Numbered world) (compiles : (world.answers world.prepared).Compiles) :
    Csqliter.runstep scriptSqlite (asked sql clientID wrapper) world =
      Csqliter.runcompiled scriptSqlite (ready sql clientID wrapper world.prepared)
        { world with calls := world.calls ++
          compileCalls (world.answers world.prepared) sql clientID world.prepared } := by
  have dirty : (asked sql clientID wrapper).statementdirty = true := rfl
  rw [Csqliter.runstep, dirty, if_pos rfl,
    compilestatement_asked sql clientID nonempty opened numbered compiles]
  rfl

theorem runstep_asked_fails (sql clientID : Bytes) (nonempty : sql ≠ [])
    (opened : wrapper.db = true) (numbered : Numbered world)
    (fails : ¬ (world.answers world.prepared).Compiles) :
    ∃ result left calls,
      Csqliter.runstep scriptSqlite (asked sql clientID wrapper) world =
        (result, left, { world with calls := world.calls ++ calls }) ∧
      result ≠ .rowresultdb ∧ left.litestmnt = none ∧
      ∀ call ∈ calls, call.Belongs sql world.prepared ∧
        ∀ stmt result, call ≠ .step stmt result := by
  rcases compilestatement_asked_fails sql clientID nonempty opened numbered fails with
    ⟨result, left, calls, compiled, failed, noRow, idle, belong⟩
  have dirty : (asked sql clientID wrapper).statementdirty = true := rfl
  refine ⟨result, left, calls, ?_, noRow, idle, belong⟩
  rw [Csqliter.runstep, dirty, if_pos rfl, compiled]
  cases result with
  | successdb => exact absurd rfl failed
  | _ => rfl

/-! ### Stepping -/

theorem runcompiled_failed {stmt : Nat} (stepping : Stepping wrapper stmt) {next : ScriptWorld}
    {answer : StepResult} (called : scriptSqlite.step world stmt = (next, answer))
    (failed : answer = .busy ∨ answer = .error) :
    ∃ result, Csqliter.runcompiled scriptSqlite wrapper world = (result, wrapper, next) ∧
      result ≠ .rowresultdb := by
  rw [Csqliter.runcompiled, Csqliter.stepstatement]
  simp only [stepping.opened, stepping.live, called]
  rcases failed with rfl | rfl
  · exact ⟨.busydberror, rfl, by simp⟩
  · exact ⟨.otherdberror, rfl, by simp⟩

/-- A step delivers a text and leaves the wrapper stepping, or it is the last
one. -/
theorem runcompiled_stepping {stmt : Nat} (stepping : Stepping wrapper stmt) :
    (∃ next, (world.answers stmt).text (world.stepped stmt) = some (firstColumn next) ∧
        Csqliter.runcompiled scriptSqlite wrapper world =
          (.rowresultdb, next,
            world.record (.step stmt ((world.answers stmt).step (world.stepped stmt)))) ∧
        Stepping next stmt) ∨
      ((world.answers stmt).text (world.stepped stmt) = none ∧ ∃ result left calls,
        Csqliter.runcompiled scriptSqlite wrapper world =
          (result, left, { world with calls := world.calls ++
            (Call.step stmt ((world.answers stmt).step (world.stepped stmt)) :: calls) }) ∧
        result ≠ .rowresultdb ∧
        left.litestmnt =
          (if (world.answers stmt).step (world.stepped stmt) = .done then none else some stmt) ∧
        ∀ call ∈ calls, call = .finalize stmt) := by
  have called : scriptSqlite.step world stmt =
      (world.record (.step stmt ((world.answers stmt).step (world.stepped stmt))),
        (world.answers stmt).step (world.stepped stmt)) := rfl
  cases answer : (world.answers stmt).step (world.stepped stmt) with
  | row columns =>
      rw [answer] at called
      rcases stepstatement_row stepping.toExpecting stepping.opened stepping.live called with
        ⟨row, stepped, reads⟩
      cases readable : readRow columns with
      | some text =>
          left
          rw [rowResult_of_readable readable] at stepped
          refine ⟨{ wrapper with rowdata := row }, ?_, ?_, ?_⟩
          · rw [Answers.text_of_row answer, readable]
            exact congrArg some (reads text readable).symm
          · rw [Csqliter.runcompiled, stepped]
          · exact ⟨⟨stepping.options, stepping.types⟩, stepping.opened, stepping.live,
              stepping.compiled⟩
      | none =>
          right
          rcases rowResult_of_unreadable readable with ⟨noRow, notDone⟩
          refine ⟨by rw [Answers.text_of_row answer, readable], rowResult columns,
            { wrapper with rowdata := row }, [], ?_, noRow, ?_, by simp⟩
          · rw [Csqliter.runcompiled, stepped]
            generalize rowResult columns = result at notDone
            cases result with
            | successdb => exact absurd rfl notDone
            | _ => rfl
          · rw [if_neg (by simp)]
            exact stepping.live
  | done =>
      right
      refine ⟨Answers.text_of_no_row (by simp [answer]), .successdb,
        { wrapper with valsin := [], valtypesout := [], litestmnt := none }, [.finalize stmt], ?_,
        by simp, by simp, by simp⟩
      rw [answer] at called
      simp [Csqliter.runcompiled, Csqliter.stepstatement, stepping.opened, stepping.live, called,
        Csqliter.finalizestatement_of_live scriptSqlite stepping.opened stepping.live]
      simp [scriptSqlite, ScriptWorld.record]
  | busy | error =>
      right
      rw [answer] at called
      rcases runcompiled_failed stepping called (by simp) with ⟨result, ran, noRow⟩
      exact ⟨Answers.text_of_no_row (by simp [answer]), result, wrapper, [], ran, noRow,
        by simp [stepping.live], by simp⟩

theorem stepped_record (stmt : Nat) (result : StepResult) (calls : List Call)
    (finalizes : ∀ call ∈ calls, call = .finalize stmt) :
    (ScriptWorld.mk world.answers (world.calls ++ (Call.step stmt result :: calls))).stepped stmt =
      world.stepped stmt + 1 := by
  have none : calls.countP (Call.isStep stmt) = 0 := by
    apply List.countP_eq_zero.mpr
    intro call member
    rw [finalizes call member]
    simp [Call.isStep]
  simp [ScriptWorld.stepped, List.countP_append, none, Call.isStep]

/-- The calls that step a statement from a position on. -/
def stepCalls (answers : Answers) (stmt start count : Nat) : List Call :=
  (List.range count).map fun position => .step stmt (answers.step (start + position))

theorem stepCalls_succ (answers : Answers) (stmt start count : Nat) :
    stepCalls answers stmt start (count + 1) =
      .step stmt (answers.step start) :: stepCalls answers stmt (start + 1) count := by
  unfold stepCalls
  rw [List.range_succ_eq_map, List.map_cons, List.map_map, Nat.add_zero]
  congr 1
  apply List.map_congr_left
  intro position _
  simp only [Function.comp_apply, Nat.succ_eq_add_one]
  rw [Nat.add_comm position 1, Nat.add_assoc]

/-- The loop steps the statement up to the first step without a text. -/
theorem readValidIPs_stepping {stmt rounds : Nat} {ips : List Bytes} {left : Csqliter Nat}
    {last : ScriptWorld} (stepping : Stepping wrapper stmt)
    (read : readValidIPs scriptSqlite rounds wrapper world = some (ips, left, last)) :
    ∃ count calls,
      (∀ position < count, ((world.answers stmt).text (world.stepped stmt + position)).isSome) ∧
      (world.answers stmt).text (world.stepped stmt + count) = none ∧
      last.calls = world.calls ++
        stepCalls (world.answers stmt) stmt (world.stepped stmt) (count + 1) ++ calls ∧
      left.litestmnt =
        (if (world.answers stmt).step (world.stepped stmt + count) = .done then none
          else some stmt) ∧
      ∀ call ∈ calls, call = .finalize stmt := by
  induction rounds generalizing wrapper world ips with
  | zero => cases read
  | succ rounds inductionHypothesis =>
      unfold readValidIPs at read
      rw [runstep_of_stepping stepping] at read
      rcases @runcompiled_stepping wrapper world stmt stepping with
        ⟨next, found, ran, steppingNext⟩ | ⟨missing, result, after, calls, ran, noRow, idle, owed⟩
      · simp only [ran] at read
        rcases Option.map_eq_some_iff.mp read with ⟨⟨more, rest⟩, later, same⟩
        cases same
        rcases inductionHypothesis steppingNext later with
          ⟨count, calls, texts, ends, made, idle, owed⟩
        have position : (world.record (.step stmt ((world.answers stmt).step
            (world.stepped stmt)))).stepped stmt = world.stepped stmt + 1 :=
          stepped_record stmt _ [] (by simp)
        rw [position] at texts ends made idle
        simp only [ScriptWorld.record_answers, ScriptWorld.record_calls] at texts ends made idle
        refine ⟨count + 1, calls, ?_, ?_, ?_, ?_, owed⟩
        · intro earlier before
          cases earlier with
          | zero => simp [found]
          | succ earlier =>
              have readable := texts earlier (by omega)
              rwa [Nat.add_assoc, Nat.add_comm 1] at readable
        · rwa [Nat.add_assoc, Nat.add_comm 1] at ends
        · rw [made, stepCalls_succ _ _ _ (count + 1)]
          simp
        · rwa [Nat.add_assoc, Nat.add_comm 1] at idle
      · refine ⟨0, calls, fun position before => absurd before (Nat.not_lt_zero position), missing,
          ?_, ?_, owed⟩
        · simp only [ran] at read
          cases result with
          | rowresultdb => exact absurd rfl noRow
          | _ =>
              cases read
              simp [stepCalls]
        · simp only [ran] at read
          cases result with
          | rowresultdb => exact absurd rfl noRow
          | _ =>
              cases read
              exact idle

/-- The loop returns if some step has no text. -/
theorem readValidIPs_returns {stmt count : Nat} (stepping : Stepping wrapper stmt)
    (ends : (world.answers stmt).text (world.stepped stmt + count) = none) :
    ∃ returned, readValidIPs scriptSqlite (count + 1) wrapper world = some returned := by
  induction count generalizing wrapper world with
  | zero =>
      rw [Nat.add_zero] at ends
      unfold readValidIPs
      rw [runstep_of_stepping stepping]
      rcases @runcompiled_stepping wrapper world stmt stepping with
        ⟨next, found, -, -⟩ | ⟨-, result, after, calls, ran, noRow, -, -⟩
      · rw [ends] at found
        cases found
      · simp only [ran]
        cases result with
        | rowresultdb => exact absurd rfl noRow
        | _ => exact ⟨_, rfl⟩
  | succ count inductionHypothesis =>
      unfold readValidIPs
      rw [runstep_of_stepping stepping]
      rcases @runcompiled_stepping wrapper world stmt stepping with
        ⟨next, -, ran, steppingNext⟩ | ⟨-, result, after, calls, ran, noRow, -, -⟩
      · have position : (world.record (.step stmt ((world.answers stmt).step
            (world.stepped stmt)))).stepped stmt = world.stepped stmt + 1 :=
          stepped_record stmt _ [] (by simp)
        rcases @inductionHypothesis next (world.record (.step stmt ((world.answers stmt).step
            (world.stepped stmt)))) steppingNext
          (by rw [position, Nat.add_assoc, Nat.add_comm 1]; exact ends) with ⟨returned, later⟩
        simp only [ran, later]
        exact ⟨_, rfl⟩
      · simp only [ran]
        cases result with
        | rowresultdb => exact absurd rfl noRow
        | _ => exact ⟨_, rfl⟩

/-! ### The two lookups -/

/-- The world in which a lookup compiles its statement. -/
def settled (wrapper : Csqliter Nat) (world : ScriptWorld) : ScriptWorld :=
  { world with calls := world.calls ++ leftover wrapper }

theorem settled_prepared : (settled wrapper world).prepared = world.prepared := by
  unfold settled ScriptWorld.prepared leftover
  cases wrapper.litestmnt <;> simp [List.countP_append, Call.isPrepare]

/-- A lookup that never compiles its statement steps nothing and leaves nothing. -/
structure Skipped (wrapper : Csqliter Nat) (world : ScriptWorld) (sql : Bytes)
    (left : Csqliter Nat) (last : ScriptWorld) : Prop where
  idle : left.litestmnt = none
  calls : ∃ calls, last.calls = world.calls ++ leftover wrapper ++ calls ∧
    ∀ call ∈ calls, call.Belongs sql world.prepared ∧ ∀ stmt result, call ≠ .step stmt result

/-- A lookup that steps its statement `count` times over a text, and once more. -/
structure Stepped (wrapper : Csqliter Nat) (world : ScriptWorld) (sql clientID : Bytes)
    (count : Nat) (left : Csqliter Nat) (last : ScriptWorld) : Prop where
  idle : left.litestmnt =
    if (world.answers world.prepared).step count = .done then none else some world.prepared
  calls : ∃ calls, last.calls = world.calls ++ (leftover wrapper ++
      compileCalls (world.answers world.prepared) sql clientID world.prepared ++
      stepCalls (world.answers world.prepared) world.prepared 0 (count + 1) ++ calls) ∧
    ∀ call ∈ calls, call = .finalize world.prepared

/-! ### Reading the log of a lookup -/

/-- The log shows a statement for this text that delivered this value. -/
def Delivered (calls : List Call) (sql : Bytes) (value : SqlValue) : Prop :=
  ∃ stmt, .prepare sql (some stmt) ∈ calls ∧ .step stmt (.row [value]) ∈ calls

theorem delivered_append_left {left right : List Call} {sql other : Bytes} {stmt another : Nat}
    (own : ∀ call ∈ left, call.Belongs sql stmt)
    (foreign : ∀ call ∈ right, call.Belongs other another)
    (texts : sql ≠ other) (apart : stmt ≠ another) (value : SqlValue) :
    Delivered (left ++ right) sql value ↔ Delivered left sql value := by
  constructor
  · intro delivered
    rcases delivered with ⟨found, prepared, stepped⟩
    rcases List.mem_append.mp prepared with ownPrepare | foreignPrepare
    · rcases List.mem_append.mp stepped with ownStep | foreignStep
      · exact ⟨found, ownPrepare, ownStep⟩
      · have same : found = stmt := (own _ ownPrepare).2 found rfl
        have different : found = another := foreign _ foreignStep
        exact absurd (same.symm.trans different) apart
    · exact absurd (foreign _ foreignPrepare).1 texts
  · intro delivered
    rcases delivered with ⟨found, prepared, stepped⟩
    exact ⟨found, List.mem_append_left right prepared, List.mem_append_left right stepped⟩

theorem delivered_append_comm {left right : List Call} (sql : Bytes) (value : SqlValue) :
    Delivered (left ++ right) sql value ↔ Delivered (right ++ left) sql value := by
  unfold Delivered
  simp only [List.mem_append, or_comm]

theorem mem_leftover {call : Call} (member : call ∈ leftover wrapper) :
    ∃ stmt, call = .finalize stmt := by
  cases live : wrapper.litestmnt with
  | none => simp [leftover, live] at member
  | some stmt => exact ⟨stmt, by simpa [leftover, live] using member⟩

theorem mem_stepCalls {answers : Answers} {stmt start count : Nat} {call : Call} :
    call ∈ stepCalls answers stmt start count ↔
      ∃ position < count, call = .step stmt (answers.step (start + position)) := by
  unfold stepCalls
  simp only [List.mem_map, List.mem_range]
  constructor
  · intro found
    rcases found with ⟨position, before, same⟩
    exact ⟨position, before, same.symm⟩
  · intro found
    rcases found with ⟨position, before, same⟩
    exact ⟨position, before, same.symm⟩

/-- The calls of a lookup that steps its statement `count` times and once more. -/
inductive LookupCall (answers : Answers) (sql : Bytes) (stmt count : Nat) : Call → Prop
  | prepare : LookupCall answers sql stmt count (.prepare sql (some stmt))
  | bind (index : Nat) (value : SqlValue) (bound : Bool) :
      LookupCall answers sql stmt count (.bind stmt index value bound)
  | step (position : Nat) (within : position ≤ count) :
      LookupCall answers sql stmt count (.step stmt (answers.step position))
  | finalize (live : Nat) : LookupCall answers sql stmt count (.finalize live)

namespace LookupCall

variable {answers : Answers} {sql : Bytes} {stmt count : Nat} {call : Call}

theorem belongs (made : LookupCall answers sql stmt count call) : call.Belongs sql stmt := by
  cases made with
  | prepare =>
      refine ⟨rfl, ?_⟩
      intro other same
      exact (Option.some.inj same).symm
  | bind => trivial
  | step => rfl
  | finalize => trivial

theorem of_prepare {text : Bytes} {found : Nat}
    (made : LookupCall answers sql stmt count (.prepare text (some found))) : found = stmt := by
  cases made
  rfl

theorem of_step {found : Nat} {result : StepResult}
    (made : LookupCall answers sql stmt count (.step found result)) :
    ∃ position ≤ count, answers.step position = result := by
  cases made with
  | step position within => exact ⟨position, within, rfl⟩

theorem of_leftover (member : call ∈ leftover wrapper) :
    LookupCall answers sql stmt count call := by
  rcases mem_leftover member with ⟨live, rfl⟩
  exact .finalize live

theorem of_compileCalls {clientID : Bytes}
    (member : call ∈ compileCalls answers sql clientID stmt) :
    LookupCall answers sql stmt count call := by
  simp only [compileCalls, List.mem_cons, List.not_mem_nil, or_false] at member
  rcases member with rfl | rfl
  · exact .prepare
  · exact .bind _ _ _

theorem of_stepCalls (member : call ∈ stepCalls answers stmt 0 (count + 1)) :
    LookupCall answers sql stmt count call := by
  rcases mem_stepCalls.mp member with ⟨position, before, rfl⟩
  rw [Nat.zero_add]
  exact .step position (by omega)

end LookupCall

/-- The statement is prepared once. -/
theorem countP_lookup {answers : Answers} {sql clientID : Bytes} {stmt count live : Nat}
    {owed : List Call} (owes : ∀ call ∈ owed, call = .finalize live) :
    (leftover wrapper ++ compileCalls answers sql clientID stmt ++
      stepCalls answers stmt 0 (count + 1) ++ owed).countP Call.isPrepare = 1 := by
  have old : (leftover wrapper).countP Call.isPrepare = 0 := by
    apply List.countP_eq_zero.mpr
    intro call member
    rcases mem_leftover member with ⟨_, rfl⟩
    simp [Call.isPrepare]
  have stepping : (stepCalls answers stmt 0 (count + 1)).countP Call.isPrepare = 0 := by
    apply List.countP_eq_zero.mpr
    intro call member
    rcases mem_stepCalls.mp member with ⟨_, _, rfl⟩
    simp [Call.isPrepare]
  have new : owed.countP Call.isPrepare = 0 := by
    apply List.countP_eq_zero.mpr
    intro call member
    rw [owes call member]
    simp [Call.isPrepare]
  have compiling : (compileCalls answers sql clientID stmt).countP Call.isPrepare = 1 := rfl
  rw [List.countP_append, List.countP_append, List.countP_append, old, stepping, new, compiling]

/-- The part of the log that a stepped lookup adds. -/
theorem Stepped.segment {sql clientID : Bytes} {count : Nat} {after : Csqliter Nat}
    {last : ScriptWorld} (stepped : Stepped wrapper world sql clientID count after last) :
    ∃ calls, last.calls = world.calls ++ calls ∧
      (∀ call ∈ calls, call.Belongs sql world.prepared) ∧
      last.prepared = world.prepared + 1 ∧
      (∀ result, .step world.prepared result ∈ calls ↔
        ∃ position ≤ count, (world.answers world.prepared).step position = result) ∧
      ∀ value, Delivered calls sql value ↔
        ∃ position ≤ count, (world.answers world.prepared).step position = .row [value] := by
  rcases stepped.calls with ⟨owed, made, owes⟩
  have kinds : ∀ call ∈ leftover wrapper ++
      compileCalls (world.answers world.prepared) sql clientID world.prepared ++
      stepCalls (world.answers world.prepared) world.prepared 0 (count + 1) ++ owed,
      LookupCall (world.answers world.prepared) sql world.prepared count call := by
    intro call member
    simp only [List.mem_append] at member
    rcases member with ((old | compiling) | stepping) | new
    · exact .of_leftover old
    · exact .of_compileCalls compiling
    · exact .of_stepCalls stepping
    · rw [owes call new]
      exact .finalize _
  have steps (result : StepResult) : Call.step world.prepared result ∈ leftover wrapper ++
      compileCalls (world.answers world.prepared) sql clientID world.prepared ++
      stepCalls (world.answers world.prepared) world.prepared 0 (count + 1) ++ owed ↔
        ∃ position ≤ count, (world.answers world.prepared).step position = result := by
    constructor
    · intro member
      exact (kinds _ member).of_step
    · intro found
      rcases found with ⟨position, within, same⟩
      apply List.mem_append_left
      apply List.mem_append_right
      apply mem_stepCalls.mpr
      exact ⟨position, by omega, by rw [Nat.zero_add, same]⟩
  refine ⟨_, made, fun call member => (kinds call member).belongs, ?_, steps, ?_⟩
  · show last.calls.countP Call.isPrepare = world.calls.countP Call.isPrepare + 1
    rw [made, List.countP_append, countP_lookup owes]
  · intro value
    constructor
    · intro delivered
      rcases delivered with ⟨stmt, prepared, found⟩
      rw [(kinds _ prepared).of_prepare] at found
      exact (steps _).mp found
    · intro found
      refine ⟨world.prepared, ?_, (steps _).mpr found⟩
      simp [compileCalls]

theorem Skipped.segment {sql : Bytes} {after : Csqliter Nat} {last : ScriptWorld}
    (skipped : Skipped wrapper world sql after last) :
    ∃ calls, last.calls = world.calls ++ calls ∧
      (∀ call ∈ calls, call.Belongs sql world.prepared) ∧
      ∀ value, ¬ Delivered calls sql value := by
  rcases skipped.calls with ⟨owed, made, belong⟩
  refine ⟨leftover wrapper ++ owed, by rw [made, List.append_assoc], ?_, ?_⟩
  · intro call member
    rcases List.mem_append.mp member with old | new
    · rcases mem_leftover old with ⟨_, rfl⟩
      trivial
    · exact (belong call new).1
  · intro value delivered
    rcases delivered with ⟨stmt, -, stepped⟩
    rcases List.mem_append.mp stepped with old | new
    · rcases mem_leftover old with ⟨_, same⟩
      cases same
    · exact (belong _ new).2 stmt _ rfl

/-- The statement of the next lookup on this wrapper compiles. -/
def CompilesNext (wrapper : Csqliter Nat) (world : ScriptWorld) : Prop :=
  wrapper.db = true ∧ (world.answers world.prepared).Compiles

theorem Tidy.settled (tidy : Tidy wrapper world) : Numbered (settled wrapper world) := by
  have kept := tidy.toHolds.finalizestatement.1.numbered
  cases live : wrapper.litestmnt with
  | none =>
      rw [Csqliter.finalizestatement_of_none scriptSqlite live] at kept
      simpa [Database.settled, leftover, live] using kept
  | some stmt =>
      rw [Csqliter.finalizestatement_of_live scriptSqlite (tidy.toHolds.opened_of_live live) live]
        at kept
      simpa [Database.settled, leftover, live, scriptSqlite, ScriptWorld.record] using kept

/-- The first `runstep` of a lookup whose statement does not compile. -/
theorem Tidy.runstep_skipped (tidy : Tidy wrapper world) (sql clientID : Bytes)
    (nonempty : sql ≠ []) (fails : ¬ CompilesNext wrapper world) :
    ∃ result after last,
      Csqliter.runstep scriptSqlite (asked sql clientID wrapper) (Database.settled wrapper world) =
        (result, after, last) ∧
      result ≠ .rowresultdb ∧ Skipped wrapper world sql after last := by
  cases opened : wrapper.db with
  | false =>
      refine ⟨.otherdberror, { asked sql clientID wrapper with valsin := [], valtypesout := [] },
        Database.settled wrapper world, ?_, by simp, ⟨rfl, [], by simp [Database.settled], by simp⟩⟩
      simp [Csqliter.runstep, Csqliter.compilestatement, Csqliter.compilesql, asked, opened,
        Csqliter.finalizestatement]
  | true =>
      have prepared := @settled_prepared wrapper world
      rcases runstep_asked_fails sql clientID nonempty opened tidy.settled
        (by rw [prepared]; exact fun compiles => fails ⟨opened, compiles⟩) with
        ⟨result, after, calls, ran, noRow, idle, belong⟩
      rw [prepared] at belong
      exact ⟨result, after, _, ran, noRow, idle, calls, rfl, belong⟩

/-- The state in which the statement is stepped first. -/
theorem Tidy.runstep_compiled (tidy : Tidy wrapper world) (sql clientID : Bytes)
    (nonempty : sql ≠ []) (compiles : CompilesNext wrapper world) :
    ∃ start : ScriptWorld,
      Csqliter.runstep scriptSqlite (asked sql clientID wrapper) (Database.settled wrapper world) =
        Csqliter.runcompiled scriptSqlite (ready sql clientID wrapper world.prepared) start ∧
      start.answers = world.answers ∧ start.stepped world.prepared = 0 ∧
      start.calls = world.calls ++ leftover wrapper ++
        compileCalls (world.answers world.prepared) sql clientID world.prepared := by
  have prepared := @settled_prepared wrapper world
  have ran := runstep_asked sql clientID nonempty compiles.1 tidy.settled
    (by rw [prepared]; exact compiles.2)
  rw [prepared] at ran
  refine ⟨_, ran, rfl, ?_, rfl⟩
  have untouched := tidy.settled.untouched.1
  rw [prepared] at untouched
  simpa [ScriptWorld.stepped, List.countP_append, compileCalls, Call.isStep] using untouched

/-- What the license lookup returns and leaves. -/
theorem Tidy.getUserLicenseType_script (tidy : Tidy wrapper world) (clientID : Bytes) :
    ∃ value after last,
      Database.getUserLicenseType scriptSqlite clientID wrapper world = (value, after, last) ∧
      ((CompilesNext wrapper world ∧
          value = ((world.answers world.prepared).text 0).getD [] ∧
          last.answers = world.answers ∧ (value ≠ [] → after.db = true) ∧
          Stepped wrapper world licenseTypeSql clientID 0 after last) ∨
        (¬ CompilesNext wrapper world ∧ value = [] ∧
          Skipped wrapper world licenseTypeSql after last)) := by
  have nonempty : licenseTypeSql ≠ [] := by decide
  unfold Database.getUserLicenseType
  rw [tidy.toHolds.query_eq, ← Database.settled]
  simp only
  by_cases compiles : CompilesNext wrapper world
  · rcases tidy.runstep_compiled licenseTypeSql clientID nonempty compiles with
      ⟨start, ran, answers, position, calls⟩
    have stepping := stepping_ready licenseTypeSql clientID tidy.options compiles.1 world.prepared
    rw [ran]
    rcases @runcompiled_stepping _ start _ stepping with
      ⟨next, found, stepped, steppingNext⟩ |
        ⟨missing, result, after, owed, stepped, noRow, idle, owes⟩
    · rw [answers, position] at found stepped
      have notDone : (world.answers world.prepared).step 0 ≠ .done := by
        intro done
        rw [Answers.text, done] at found
        cases found
      simp only [stepped]
      refine ⟨_, _, _, rfl, .inl ⟨compiles, by rw [found]; rfl, answers,
        fun _ => steppingNext.opened, ?_, [], ?_, by simp⟩⟩
      · rw [if_neg notDone]
        exact steppingNext.live
      · rw [ScriptWorld.record_calls, calls]
        simp [stepCalls]
    · rw [answers, position] at missing stepped idle
      simp only [stepped]
      cases result with
      | rowresultdb => exact absurd rfl noRow
      | _ =>
          refine ⟨[], after, _, rfl, .inl ⟨compiles, by rw [missing]; rfl, rfl,
            fun nonempty => absurd rfl nonempty, idle, owed, ?_, owes⟩⟩
          simp [calls, stepCalls]
  · rcases tidy.runstep_skipped licenseTypeSql clientID nonempty compiles with
      ⟨result, after, last, ran, noRow, skipped⟩
    rw [ran]
    cases result with
    | rowresultdb => exact absurd rfl noRow
    | _ => exact ⟨[], after, last, rfl, .inr ⟨compiles, rfl, skipped⟩⟩

/-- What the address lookup leaves, if it returns. -/
theorem Tidy.getUserValidIPs_script (tidy : Tidy wrapper world) {clientID : Bytes} {rounds : Nat}
    {ips : List Bytes} {after : Csqliter Nat} {last : ScriptWorld}
    (read : Database.getUserValidIPs scriptSqlite rounds clientID wrapper world =
      some (ips, after, last)) :
    (CompilesNext wrapper world ∧ ∃ count,
        (∀ position < count, ((world.answers world.prepared).text position).isSome) ∧
        (world.answers world.prepared).text count = none ∧
        Stepped wrapper world validIPSql clientID count after last) ∨
      (¬ CompilesNext wrapper world ∧ Skipped wrapper world validIPSql after last) := by
  have nonempty : validIPSql ≠ [] := by decide
  unfold Database.getUserValidIPs at read
  rw [tidy.toHolds.query_eq, ← Database.settled] at read
  simp only at read
  cases rounds with
  | zero => cases read
  | succ rounds =>
      by_cases compiles : CompilesNext wrapper world
      · left
        refine ⟨compiles, ?_⟩
        rcases tidy.runstep_compiled validIPSql clientID nonempty compiles with
          ⟨start, ran, answers, position, calls⟩
        have stepping := stepping_ready validIPSql clientID tidy.options compiles.1 world.prepared
        -- the loop from the first step on is the loop of a stepping wrapper
        have same : Database.readValidIPs scriptSqlite (rounds + 1)
            (ready validIPSql clientID wrapper world.prepared) start = some (ips, after, last) := by
          rw [Database.readValidIPs, ran] at read
          rw [Database.readValidIPs, runstep_of_stepping stepping]
          exact read
        rcases readValidIPs_stepping stepping same with ⟨count, owed, texts, ends, made, idle, owes⟩
        rw [answers, position] at texts ends made idle
        simp only [Nat.zero_add] at texts ends idle
        refine ⟨count, texts, ends, idle, owed, ?_, owes⟩
        rw [made, calls]
        simp
      · right
        refine ⟨compiles, ?_⟩
        rcases tidy.runstep_skipped validIPSql clientID nonempty compiles with
          ⟨result, afterStep, lastStep, ran, noRow, skipped⟩
        simp only [Database.readValidIPs, ran] at read
        cases result with
        | rowresultdb => exact absurd rfl noRow
        | _ =>
            cases read
            exact skipped

/-- The address lookup returns unless its rows go on for ever. -/
theorem Tidy.getUserValidIPs_returns (tidy : Tidy wrapper world) (clientID : Bytes)
    (ends : CompilesNext wrapper world →
      ∃ count, (world.answers world.prepared).text count = none) :
    ∃ rounds returned,
      Database.getUserValidIPs scriptSqlite rounds clientID wrapper world = some returned := by
  have nonempty : validIPSql ≠ [] := by decide
  unfold Database.getUserValidIPs
  rw [tidy.toHolds.query_eq, ← Database.settled]
  simp only
  by_cases compiles : CompilesNext wrapper world
  · rcases ends compiles with ⟨count, ends⟩
    rcases tidy.runstep_compiled validIPSql clientID nonempty compiles with
      ⟨start, ran, answers, position, -⟩
    have stepping := stepping_ready validIPSql clientID tidy.options compiles.1 world.prepared
    rcases @readValidIPs_returns _ start _ count stepping
      (by rw [answers, position, Nat.zero_add]; exact ends) with ⟨returned, read⟩
    refine ⟨count + 1, returned, ?_⟩
    rw [Database.readValidIPs, runstep_of_stepping stepping] at read
    rw [Database.readValidIPs, ran]
    exact read
  · rcases tidy.runstep_skipped validIPSql clientID nonempty compiles with
      ⟨result, after, last, ran, noRow, -⟩
    refine ⟨1, ([], after, last), ?_⟩
    rw [Database.readValidIPs, ran]
    cases result with
    | rowresultdb => exact absurd rfl noRow
    | _ => rfl

end Database

end LicensingServer
