import LicensingServer.Database.Script
import LicensingServer.Database.TableLookups

/-!
Owns the comparison of a lookup on a used `Database` with the same lookup on one
that was just constructed: first over any SQLite whose answers are the same in
two worlds, then over a script and after any history of lookups.
-/

set_option autoImplicit false

namespace LicensingServer

open LicensingServer.Foundations

namespace Database

/-! ### Two wrappers over two worlds -/

section TwoRuns

variable {World Stmt : Type} {api : Sqlite World Stmt} {related : World → World → Prop}

/-- Each call answers the same in related worlds, and leaves related worlds. -/
structure AnswersAlike (api : Sqlite World Stmt) (related : World → World → Prop) : Prop where
  prepare : ∀ {left right}, related left right → ∀ sql,
    (api.prepare left sql).2 = (api.prepare right sql).2 ∧
      related (api.prepare left sql).1 (api.prepare right sql).1
  bindParameterIndex : ∀ {left right}, related left right → ∀ stmt name,
    api.bindParameterIndex left stmt name = api.bindParameterIndex right stmt name
  bind : ∀ {left right}, related left right → ∀ stmt index value,
    (api.bind left stmt index value).2 = (api.bind right stmt index value).2 ∧
      related (api.bind left stmt index value).1 (api.bind right stmt index value).1
  step : ∀ {left right}, related left right → ∀ stmt,
    (api.step left stmt).2 = (api.step right stmt).2 ∧
      related (api.step left stmt).1 (api.step right stmt).1
  finalize : ∀ {left right}, related left right → ∀ stmt,
    related (api.finalize left stmt) (api.finalize right stmt)

/-- Two wrappers that differ in their row buffers only. -/
def SameButRow (left right : Csqliter Stmt) : Prop :=
  ∃ row, right = { left with rowdata := row }

/-- One text is expected, under the options of the constructor. -/
structure Expecting (wrapper : Csqliter Stmt) : Prop where
  options : wrapper.options = .initial
  types : wrapper.valtypesout = [.strdbval]

/-- The same result, the same wrapper but for its row, and related worlds. -/
structure Alike (related : World → World → Prop)
    (left right : DbResultType × Csqliter Stmt × World) : Prop where
  result : left.1 = right.1
  wrapper : SameButRow left.2.1 right.2.1
  world : related left.2.2 right.2.2

variable {left right : Csqliter Stmt} {leftWorld rightWorld : World}

theorem finalizestatement_alike (alike : AnswersAlike api related) (same : SameButRow left right)
    (worlds : related leftWorld rightWorld) :
    SameButRow (Csqliter.finalizestatement api left leftWorld).1
        (Csqliter.finalizestatement api right rightWorld).1 ∧
      related (Csqliter.finalizestatement api left leftWorld).2
        (Csqliter.finalizestatement api right rightWorld).2 := by
  rcases same with ⟨row, rfl⟩
  unfold Csqliter.finalizestatement
  cases left.db with
  | false => exact ⟨⟨row, rfl⟩, worlds⟩
  | true =>
      cases left.litestmnt with
      | none => exact ⟨⟨row, rfl⟩, worlds⟩
      | some stmt => exact ⟨⟨row, rfl⟩, alike.finalize worlds stmt⟩

theorem compilesql_alike (alike : AnswersAlike api related) (same : SameButRow left right)
    (worlds : related leftWorld rightWorld) :
    Alike related (Csqliter.compilesql api left leftWorld)
      (Csqliter.compilesql api right rightWorld) := by
  rcases same with ⟨row, rfl⟩
  rcases alike.prepare worlds left.stmntsql with ⟨answers, later⟩
  unfold Csqliter.compilesql
  simp only
  split_ifs
  · exact ⟨rfl, ⟨row, rfl⟩, worlds⟩
  · exact ⟨rfl, ⟨row, rfl⟩, worlds⟩
  · generalize api.prepare leftWorld left.stmntsql = leftAnswer at answers later ⊢
    generalize api.prepare rightWorld left.stmntsql = rightAnswer at answers later ⊢
    rcases leftAnswer with ⟨leftNext, leftResult⟩
    rcases rightAnswer with ⟨rightNext, rightResult⟩
    cases answers
    cases leftResult <;> exact ⟨rfl, ⟨row, rfl⟩, later⟩

theorem bindparameters_alike (alike : AnswersAlike api related) (db : Bool) (stmt : Stmt)
    (params : List CdbParameter) (worlds : related leftWorld rightWorld) :
    (Csqliter.bindparameters api db stmt params leftWorld).1 =
        (Csqliter.bindparameters api db stmt params rightWorld).1 ∧
      related (Csqliter.bindparameters api db stmt params leftWorld).2
        (Csqliter.bindparameters api db stmt params rightWorld).2 := by
  induction params generalizing leftWorld rightWorld with
  | nil => exact ⟨rfl, worlds⟩
  | cons param rest inductionHypothesis =>
      have first : (Csqliter.bindparameter api db stmt param leftWorld).1 =
            (Csqliter.bindparameter api db stmt param rightWorld).1 ∧
          related (Csqliter.bindparameter api db stmt param leftWorld).2
            (Csqliter.bindparameter api db stmt param rightWorld).2 := by
        unfold Csqliter.bindparameter
        rw [alike.bindParameterIndex worlds]
        simp only
        split_ifs
        · exact ⟨rfl, worlds⟩
        · exact ⟨rfl, worlds⟩
        · exact alike.bind worlds _ _ _
      rw [Csqliter.bindparameters, Csqliter.bindparameters]
      generalize Csqliter.bindparameter api db stmt param leftWorld = leftAnswer at first ⊢
      generalize Csqliter.bindparameter api db stmt param rightWorld = rightAnswer at first ⊢
      rcases leftAnswer with ⟨success, leftNext⟩
      rcases rightAnswer with ⟨success, rightNext⟩
      rcases first with ⟨rfl, later⟩
      cases success with
      | true => exact inductionHypothesis later
      | false => exact ⟨rfl, later⟩

theorem compilestatement_alike (alike : AnswersAlike api related) (same : SameButRow left right)
    (worlds : related leftWorld rightWorld) :
    Alike related (Csqliter.compilestatement api left leftWorld)
      (Csqliter.compilestatement api right rightWorld) := by
  have compiled := compilesql_alike alike same worlds
  unfold Csqliter.compilestatement
  generalize Csqliter.compilesql api left leftWorld = leftAnswer at compiled ⊢
  generalize Csqliter.compilesql api right rightWorld = rightAnswer at compiled ⊢
  rcases leftAnswer with ⟨result, leftNext, leftLater⟩
  rcases rightAnswer with ⟨result, rightNext, rightLater⟩
  rcases compiled with ⟨rfl, sameNext, later⟩
  have finalized := finalizestatement_alike alike sameNext later
  cases result with
  | successdb =>
      rcases sameNext with ⟨row, rfl⟩
      rcases leftNext with ⟨options, db, litestmnt, dirty, sql, valsin, types, leftRow⟩
      cases litestmnt with
      | none => exact ⟨rfl, ⟨row, rfl⟩, later⟩
      | some stmt =>
          rcases bindparameters_alike alike db stmt valsin later with ⟨bound, bindings⟩
          simp only
          generalize Csqliter.bindparameters api db stmt valsin leftLater = leftBound
            at bound bindings ⊢
          generalize Csqliter.bindparameters api db stmt valsin rightLater = rightBound
            at bound bindings ⊢
          rcases leftBound with ⟨success, leftEnd⟩
          rcases rightBound with ⟨success, rightEnd⟩
          cases bound
          cases success with
          | true => exact ⟨rfl, ⟨row, rfl⟩, bindings⟩
          | false =>
              have ended := finalizestatement_alike alike
                (show SameButRow ⟨options, db, some stmt, dirty, sql, valsin, types, leftRow⟩
                  ⟨options, db, some stmt, dirty, sql, valsin, types, row⟩ from ⟨row, rfl⟩)
                bindings
              exact ⟨rfl, ended.1, ended.2⟩
  | _ => exact ⟨rfl, finalized.1, finalized.2⟩

/-! ### Rows -/

/-- A row of one readable text overwrites what the buffer held. -/
theorem firstColumn_store {value : SqlValue} {text : Bytes} (readable : readText value = some text)
    (old : CdbVal) : (old.store value).sval = text := by
  cases value <;> simp_all [readText, CdbVal.store]

theorem readColumns_of_readable {value : SqlValue} {text : Bytes}
    (readable : readText value = some text) (old : List CdbVal) :
    readColumns .initial [value] [.strdbval] old =
      ([(old.headD .empty).store value], .rowresultdb) := by
  cases value <;> first | rfl | exact absurd readable (by simp [readText])

theorem readColumns_of_unreadable {value : SqlValue} (unreadable : readText value = none)
    (old : List CdbVal) :
    readColumns .initial [value] [.strdbval] old = (old, .resulttypemismatchdberror) := by
  cases value <;> first | rfl | exact absurd unreadable (by simp [readText])

/-- The one text that a row delivers where one text is expected. -/
def readRow : List SqlValue → Option Bytes
  | [value] => readText value
  | _ => none

/-- How a step that finds a row ends. -/
def rowResult (columns : List SqlValue) : DbResultType :=
  match readRow columns with
  | some _ => .rowresultdb
  | none => if columns.length = 1 then .resulttypemismatchdberror else .resultcountmismatchdberror

theorem rowResult_of_readable {columns : List SqlValue} {text : Bytes}
    (readable : readRow columns = some text) : rowResult columns = .rowresultdb := by
  rw [rowResult, readable]

theorem rowResult_of_unreadable {columns : List SqlValue} (unreadable : readRow columns = none) :
    rowResult columns ≠ .rowresultdb ∧ rowResult columns ≠ .successdb := by
  rw [rowResult, unreadable]
  simp only
  split_ifs <;> simp

theorem stepstatement_row {wrapper : Csqliter Stmt} {world next : World} {stmt : Stmt}
    (expecting : Expecting wrapper) (opened : wrapper.db = true)
    (live : wrapper.litestmnt = some stmt) {columns : List SqlValue}
    (answered : api.step world stmt = (next, .row columns)) :
    ∃ row, Csqliter.stepstatement api wrapper world =
        (rowResult columns, { wrapper with rowdata := row }, next) ∧
      ∀ text, readRow columns = some text → (row.headD .empty).sval = text := by
  rcases wrapper with ⟨options, db, litestmnt, dirty, sql, valsin, types, old⟩
  rcases expecting with ⟨rfl, rfl⟩
  cases opened
  cases live
  unfold Csqliter.stepstatement
  simp only [answered]
  match columns with
  | [value] =>
      rw [if_neg (by simp), if_neg (by simp)]
      cases readable : readText value with
      | none =>
          have unreadable : readRow [value] = none := readable
          rw [readColumns_of_unreadable readable, rowResult, unreadable]
          exact ⟨_, rfl, fun text found => nomatch found⟩
      | some text =>
          have found : readRow [value] = some text := readable
          rw [readColumns_of_readable readable, rowResult, found]
          refine ⟨_, rfl, ?_⟩
          intro other same
          rw [List.headD_cons, firstColumn_store readable]
          exact Option.some.inj same
  | [] =>
      rw [if_neg (by simp), if_pos (by simp [CsqliterOptions.initial])]
      exact ⟨old, rfl, fun text found => nomatch found⟩
  | _ :: _ :: _ =>
      rw [if_neg (by simp), if_pos (by simp [CsqliterOptions.initial])]
      exact ⟨old, rfl, fun text found => nomatch found⟩

/-- If a row is delivered, both lookups take the same value from it. -/
def ReadAlike (left right : DbResultType × Csqliter Stmt × World) : Prop :=
  left.1 = .rowresultdb → Expecting left.2.1 ∧ firstColumn left.2.1 = firstColumn right.2.1

theorem stepstatement_alike (alike : AnswersAlike api related) (same : SameButRow left right)
    (expecting : Expecting left) (worlds : related leftWorld rightWorld) :
    Alike related (Csqliter.stepstatement api left leftWorld)
        (Csqliter.stepstatement api right rightWorld) ∧
      ReadAlike (Csqliter.stepstatement api left leftWorld)
        (Csqliter.stepstatement api right rightWorld) := by
  rcases same with ⟨row, rfl⟩
  rcases left with ⟨options, db, litestmnt, dirty, sql, valsin, types, old⟩
  cases db with
  | false =>
      refine ⟨⟨rfl, ⟨row, rfl⟩, worlds⟩, ?_⟩
      intro delivered
      cases delivered
  | true =>
      cases litestmnt with
      | none =>
          refine ⟨⟨rfl, ⟨row, rfl⟩, worlds⟩, ?_⟩
          intro delivered
          cases delivered
      | some stmt =>
          rcases alike.step worlds stmt with ⟨answers, later⟩
          rcases leftAnswer : api.step leftWorld stmt with ⟨leftNext, answer⟩
          rcases rightAnswer : api.step rightWorld stmt with ⟨rightNext, answer⟩
          rw [leftAnswer, rightAnswer] at answers later
          cases answers
          cases answer with
          | row columns =>
              rcases stepstatement_row expecting rfl rfl leftAnswer with
                ⟨leftRow, leftStep, leftText⟩
              rcases stepstatement_row
                (show Expecting ⟨options, true, some stmt, dirty, sql, valsin, types, row⟩ from
                  ⟨expecting.options, expecting.types⟩) rfl rfl rightAnswer with
                ⟨rightRow, rightStep, rightText⟩
              simp only at leftStep rightStep ⊢
              rw [leftStep, rightStep]
              refine ⟨⟨rfl, ⟨rightRow, rfl⟩, later⟩, ?_⟩
              intro delivered
              refine ⟨⟨expecting.options, expecting.types⟩, ?_⟩
              cases readable : readRow columns with
              | none => exact absurd delivered (rowResult_of_unreadable readable).1
              | some text => exact (leftText text readable).trans (rightText text readable).symm
          | _ =>
              simp only [Csqliter.stepstatement, leftAnswer, rightAnswer]
              refine ⟨⟨rfl, ⟨row, rfl⟩, later⟩, ?_⟩
              intro delivered
              cases delivered

theorem runcompiled_alike (alike : AnswersAlike api related) (same : SameButRow left right)
    (expecting : Expecting left) (worlds : related leftWorld rightWorld) :
    Alike related (Csqliter.runcompiled api left leftWorld)
        (Csqliter.runcompiled api right rightWorld) ∧
      ReadAlike (Csqliter.runcompiled api left leftWorld)
        (Csqliter.runcompiled api right rightWorld) := by
  rcases stepstatement_alike alike same expecting worlds with ⟨stepped, read⟩
  unfold Csqliter.runcompiled
  generalize Csqliter.stepstatement api left leftWorld = leftAnswer at stepped read ⊢
  generalize Csqliter.stepstatement api right rightWorld = rightAnswer at stepped read ⊢
  rcases leftAnswer with ⟨result, leftNext, leftLater⟩
  rcases rightAnswer with ⟨result, rightNext, rightLater⟩
  rcases stepped with ⟨rfl, sameNext, later⟩
  cases result with
  | successdb =>
      rcases finalizestatement_alike alike sameNext later with ⟨sameEnd, ended⟩
      exact ⟨⟨rfl, sameEnd, ended⟩, fun delivered => nomatch delivered⟩
  | _ => exact ⟨⟨rfl, sameNext, later⟩, read⟩

/-- Compiling delivers no row, and leaves the options and the expected types as
they were if it succeeds. -/
theorem compilestatement_result {wrapper : Csqliter Stmt} {world : World}
    (expecting : Expecting wrapper) :
    (Csqliter.compilestatement api wrapper world).1 ≠ .rowresultdb ∧
      ((Csqliter.compilestatement api wrapper world).1 = .successdb →
        Expecting (Csqliter.compilestatement api wrapper world).2.1) := by
  have kept : (Csqliter.compilesql api wrapper world).1 ≠ .rowresultdb ∧
      Expecting (Csqliter.compilesql api wrapper world).2.1 := by
    unfold Csqliter.compilesql
    split_ifs
    · exact ⟨by simp, expecting⟩
    · exact ⟨by simp, expecting⟩
    · rcases api.prepare world wrapper.stmntsql with ⟨next, answer⟩
      cases answer <;> exact ⟨by simp, expecting.options, expecting.types⟩
  unfold Csqliter.compilestatement
  generalize Csqliter.compilesql api wrapper world = answer at kept ⊢
  rcases answer with ⟨result, next, later⟩
  cases result with
  | successdb =>
      rcases next with ⟨options, db, litestmnt, dirty, sql, valsin, types, row⟩
      cases litestmnt with
      | none => exact ⟨kept.1, fun _ => kept.2⟩
      | some stmt =>
          simp only
          generalize Csqliter.bindparameters api db stmt valsin later = bound
          rcases bound with ⟨success, last⟩
          cases success with
          | true => exact ⟨kept.1, fun _ => kept.2⟩
          | false => exact ⟨by simp, fun compiled => nomatch compiled⟩
  | rowresultdb => exact absurd rfl kept.1
  | _ => exact ⟨by simp, fun compiled => nomatch compiled⟩

theorem runstep_alike (alike : AnswersAlike api related) (same : SameButRow left right)
    (expecting : Expecting left) (worlds : related leftWorld rightWorld) :
    Alike related (Csqliter.runstep api left leftWorld)
        (Csqliter.runstep api right rightWorld) ∧
      ReadAlike (Csqliter.runstep api left leftWorld)
        (Csqliter.runstep api right rightWorld) := by
  have sameDirty : right.statementdirty = left.statementdirty := by
    rcases same with ⟨row, rfl⟩
    rfl
  unfold Csqliter.runstep
  rw [sameDirty]
  cases left.statementdirty with
  | false => exact runcompiled_alike alike same expecting worlds
  | true =>
      have compiled := compilestatement_alike alike same worlds
      have kept := @compilestatement_result _ _ api left leftWorld expecting
      rw [if_pos rfl, if_pos rfl]
      generalize Csqliter.compilestatement api left leftWorld = leftAnswer at compiled kept ⊢
      generalize Csqliter.compilestatement api right rightWorld = rightAnswer at compiled ⊢
      rcases leftAnswer with ⟨result, leftNext, leftLater⟩
      rcases rightAnswer with ⟨result, rightNext, rightLater⟩
      rcases compiled with ⟨rfl, ⟨row, rfl⟩, later⟩
      cases result with
      | successdb =>
          have expects := kept.2 rfl
          exact runcompiled_alike alike ⟨row, rfl⟩ ⟨expects.options, expects.types⟩ later
      | rowresultdb => exact absurd rfl kept.1
      | _ => exact ⟨⟨rfl, ⟨row, rfl⟩, later⟩, fun delivered => nomatch delivered⟩

/-- The same value, in related worlds. -/
def SameOutcome {Value : Type} (related : World → World → Prop)
    (left right : Value × Csqliter Stmt × World) : Prop :=
  left.1 = right.1 ∧ related left.2.2 right.2.2

theorem readValidIPs_alike (alike : AnswersAlike api related) (rounds : Nat)
    (same : SameButRow left right) (expecting : Expecting left)
    (worlds : related leftWorld rightWorld) :
    Option.Rel (SameOutcome related) (readValidIPs api rounds left leftWorld)
      (readValidIPs api rounds right rightWorld) := by
  induction rounds generalizing left right leftWorld rightWorld with
  | zero => exact .none
  | succ rounds inductionHypothesis =>
      rcases runstep_alike alike same expecting worlds with ⟨stepped, read⟩
      unfold readValidIPs
      generalize Csqliter.runstep api left leftWorld = leftAnswer at stepped read ⊢
      generalize Csqliter.runstep api right rightWorld = rightAnswer at stepped read ⊢
      rcases leftAnswer with ⟨result, leftNext, leftLater⟩
      rcases rightAnswer with ⟨result, rightNext, rightLater⟩
      rcases stepped with ⟨rfl, sameNext, later⟩
      cases result with
      | rowresultdb =>
          rcases read rfl with ⟨expects, column⟩
          have rest := inductionHypothesis sameNext expects later
          simp only at column ⊢
          rw [column]
          generalize readValidIPs api rounds leftNext leftLater = leftRest at rest ⊢
          generalize readValidIPs api rounds rightNext rightLater = rightRest at rest ⊢
          cases rest with
          | none => exact .none
          | some ends =>
              apply Option.Rel.some
              exact ⟨congrArg (List.cons (firstColumn rightNext)) ends.1, ends.2⟩
      | _ => exact .some ⟨rfl, later⟩

end TwoRuns

/-! ### A used wrapper and a new one over a script -/

/-- The call that a wrapper still owes. -/
def leftover (wrapper : Csqliter Nat) : List Call :=
  (wrapper.litestmnt.map Call.finalize).toList

/-- The left world has seen some further finalize calls in between. -/
structure Beyond (before between : List Call) (left right : ScriptWorld) : Prop where
  answers : left.answers = right.answers
  calls : ∃ after, left.calls = before ++ between ++ after ∧ right.calls = before ++ after

section Scripts

variable {before between : List Call} {left right : ScriptWorld}

theorem Beyond.record (beyond : Beyond before between left right) (call : Call) :
    Beyond before between (left.record call) (right.record call) := by
  rcases beyond.calls with ⟨after, leftCalls, rightCalls⟩
  refine ⟨beyond.answers, after ++ [call], ?_, ?_⟩
  · rw [ScriptWorld.record_calls, leftCalls, List.append_assoc]
  · rw [ScriptWorld.record_calls, rightCalls, List.append_assoc]

/-- Finalize calls are not counted. -/
theorem Beyond.countP (beyond : Beyond before between left right) {counted : Call → Bool}
    (silent : ∀ call ∈ between, counted call = false) :
    left.calls.countP counted = right.calls.countP counted := by
  rcases beyond.calls with ⟨after, leftCalls, rightCalls⟩
  have none : between.countP counted = 0 := by
    rw [List.countP_eq_zero]
    intro call member
    simp [silent call member]
  rw [leftCalls, rightCalls]
  simp only [List.countP_append, none, Nat.add_zero]

theorem scriptSqlite_answersAlike (silent : ∀ call ∈ between, ∃ stmt, call = .finalize stmt) :
    AnswersAlike scriptSqlite (Beyond before between) where
  prepare := by
    intro left right beyond sql
    have count : left.prepared = right.prepared := by
      apply beyond.countP
      intro call member
      rcases silent call member with ⟨stmt, rfl⟩
      rfl
    simp only [scriptSqlite, beyond.answers, count]
    cases (right.answers right.prepared).prepare with
    | _ => exact ⟨rfl, beyond.record _⟩
  bindParameterIndex := by
    intro left right beyond stmt name
    simp only [scriptSqlite, beyond.answers]
  bind := by
    intro left right beyond stmt index value
    have count : left.bound stmt = right.bound stmt := by
      apply beyond.countP
      intro call member
      rcases silent call member with ⟨other, rfl⟩
      rfl
    simp only [scriptSqlite, beyond.answers, count]
    exact ⟨trivial, beyond.record _⟩
  step := by
    intro left right beyond stmt
    have count : left.stepped stmt = right.stepped stmt := by
      apply beyond.countP
      intro call member
      rcases silent call member with ⟨other, rfl⟩
      rfl
    simp only [scriptSqlite, beyond.answers, count]
    exact ⟨trivial, beyond.record _⟩
  finalize := by
    intro left right beyond stmt
    exact beyond.record _

end Scripts

/-- The wrapper that a lookup steps first, whatever it was before. -/
def asked {Stmt : Type} (sql clientID : Bytes) (wrapper : Csqliter Stmt) : Csqliter Stmt :=
  { wrapper with
    litestmnt := none
    statementdirty := true
    stmntsql := sql
    valsin := [clientIDParameter clientID]
    valtypesout := [.strdbval] }

theorem query_of_idle {World Stmt : Type} (api : Sqlite World Stmt) (sql clientID : Bytes)
    {wrapper : Csqliter Stmt} (idle : wrapper.litestmnt = none) (world : World) :
    query api sql clientID wrapper world = (asked sql clientID wrapper, world) := by
  have name : cString (ascii "clientID") = ascii "clientID" := by decide
  unfold query Csqliter.setsql asked
  rw [Csqliter.finalizestatement_of_none api idle]
  simp [Csqliter.bindstr, Csqliter.pushvaltypeout, idle, clientIDParameter, name, cString_cString]

theorem Holds.query_eq {wrapper : Csqliter Nat} {world : ScriptWorld} (holds : Holds wrapper world)
    (sql clientID : Bytes) :
    query scriptSqlite sql clientID wrapper world =
      (asked sql clientID wrapper, { world with calls := world.calls ++ leftover wrapper }) := by
  cases live : wrapper.litestmnt with
  | none =>
      rw [query_of_idle scriptSqlite sql clientID live, leftover, live]
      simp
  | some stmt =>
      have name : cString (ascii "clientID") = ascii "clientID" := by decide
      unfold query Csqliter.setsql asked
      rw [Csqliter.finalizestatement_of_live scriptSqlite (holds.opened_of_live live) live]
      simp [Csqliter.bindstr, Csqliter.pushvaltypeout, live, clientIDParameter, name,
        cString_cString, leftover, scriptSqlite, ScriptWorld.record]

/-- The used wrapper and a new one are stepped in the same state. -/
theorem Tidy.asked_alike {wrapper : Csqliter Nat} {world : ScriptWorld} (tidy : Tidy wrapper world)
    (dirty : Bool) (sql clientID : Bytes) :
    SameButRow (asked sql clientID wrapper) (asked sql clientID (initial wrapper.db dirty)) ∧
      Expecting (asked sql clientID wrapper) ∧
      Beyond world.calls (leftover wrapper)
        { world with calls := world.calls ++ leftover wrapper } world := by
  have options := tidy.options
  refine ⟨⟨[], ?_⟩, ⟨options, rfl⟩, rfl, [], ?_, ?_⟩
  · simp [asked, initial, options]
  · rw [List.append_nil]
  · rw [List.append_nil]

theorem Tidy.lookup_alike {wrapper : Csqliter Nat} {world : ScriptWorld}
    (tidy : Tidy wrapper world) (lookup : Lookup) (dirty : Bool) :
    Option.Rel (SameOutcome (Beyond world.calls (leftover wrapper))) (lookup.run wrapper world)
      (lookup.run (Database.initial wrapper.db dirty) world) := by
  have alike : AnswersAlike scriptSqlite (Beyond world.calls (leftover wrapper)) := by
    apply scriptSqlite_answersAlike
    intro call member
    cases live : wrapper.litestmnt with
    | none => simp [leftover, live] at member
    | some stmt => exact ⟨stmt, by simpa [leftover, live] using member⟩
  cases lookup with
  | userLicenseType clientID =>
      rcases tidy.asked_alike dirty licenseTypeSql clientID with ⟨same, expecting, worlds⟩
      rcases runstep_alike alike same expecting worlds with ⟨stepped, read⟩
      have idle : (Database.initial wrapper.db dirty : Csqliter Nat).litestmnt = none := rfl
      simp only [Lookup.run, Database.getUserLicenseType, tidy.toHolds.query_eq,
        query_of_idle scriptSqlite licenseTypeSql clientID idle world]
      generalize Csqliter.runstep scriptSqlite (asked licenseTypeSql clientID wrapper) _ =
        usedAnswer at stepped read ⊢
      generalize Csqliter.runstep scriptSqlite _ world = newAnswer at stepped read ⊢
      rcases usedAnswer with ⟨result, usedNext, usedLater⟩
      rcases newAnswer with ⟨result, newNext, newLater⟩
      rcases stepped with ⟨rfl, -, later⟩
      apply Option.Rel.some
      cases result with
      | rowresultdb => exact ⟨congrArg Sum.inl (read rfl).2, later⟩
      | _ => exact ⟨rfl, later⟩
  | userValidIPs clientID rounds =>
      rcases tidy.asked_alike dirty validIPSql clientID with ⟨same, expecting, worlds⟩
      have rows := readValidIPs_alike alike rounds same expecting worlds
      have idle : (Database.initial wrapper.db dirty : Csqliter Nat).litestmnt = none := rfl
      simp only [Lookup.run, Database.getUserValidIPs, tidy.toHolds.query_eq,
        query_of_idle scriptSqlite validIPSql clientID idle world]
      generalize Database.readValidIPs scriptSqlite rounds (asked validIPSql clientID wrapper)
        _ = usedRows at rows ⊢
      generalize Database.readValidIPs scriptSqlite rounds _ world = newRows at rows ⊢
      cases rows with
      | none => exact .none
      | some ends => exact .some ⟨congrArg Sum.inr ends.1, ends.2⟩

/-- After any history of lookups, at most one statement is live and it is the
one that the wrapper holds; and every lookup makes the calls and returns the
value that it would on a new `Database`, once what is left over is finalized. -/
theorem lookups_independent_of_history {state : Csqliter Nat × ScriptWorld}
    (reached : histories.Reachable state) :
    replay state.2.calls = some state.1.litestmnt ∧
      ∀ (lookup : Lookup) (dirty : Bool),
        Option.Rel
          (fun used new => used.1 = new.1 ∧ ∃ calls,
            used.2.2.calls = state.2.calls ++ leftover state.1 ++ calls ∧
              new.2.2.calls = state.2.calls ++ calls)
          (lookup.run state.1 state.2)
          (lookup.run (Database.initial state.1.db dirty) state.2) := by
  have tidy := tidy_of_reachable reached
  refine ⟨tidy.replayed, ?_⟩
  intro lookup dirty
  have same := tidy.lookup_alike lookup dirty
  generalize lookup.run state.1 state.2 = used at same ⊢
  generalize lookup.run (Database.initial state.1.db dirty) state.2 = new at same ⊢
  cases same with
  | none => exact .none
  | some ends => exact .some ⟨ends.1, ends.2.calls⟩

/-! ### A lookup that stops at its first row -/

/-- Every statement compiles, and its first step finds a license of type
`Group`. -/
def groupRow : Answers where
  prepare := .ok ()
  index _ := 1
  bind _ := true
  step position := if position = 0 then .row [.text groupLicense] else .done

/-- A new `Database` over a script of such answers. -/
def groupRows : Csqliter Nat × ScriptWorld := (Database.initial true false, ⟨fun _ => groupRow, []⟩)

/-- The state that a license lookup leaves there. -/
def afterGroupRow : Csqliter Nat × ScriptWorld :=
  (getUserLicenseType scriptSqlite (ascii "TESTING_CLIENT") groupRows.1 groupRows.2).2

theorem afterGroupRow_reachable : histories.Reachable afterGroupRow := by
  have start : histories.Reachable groupRows := .start ⟨true, false, _, rfl⟩
  have taken : histories.step groupRows (.userLicenseType (ascii "TESTING_CLIENT")) =
      some afterGroupRow := rfl
  exact start.next taken

example : afterGroupRow.1.litestmnt = some 0 := by decide +kernel

/-- The lookups after one that left its statement stepped to a row. -/
theorem lookups_independent_of_group_row :
    replay afterGroupRow.2.calls = some afterGroupRow.1.litestmnt ∧
      ∀ (lookup : Lookup) (dirty : Bool),
        Option.Rel
          (fun used new => used.1 = new.1 ∧ ∃ calls,
            used.2.2.calls = afterGroupRow.2.calls ++ leftover afterGroupRow.1 ++ calls ∧
              new.2.2.calls = afterGroupRow.2.calls ++ calls)
          (lookup.run afterGroupRow.1 afterGroupRow.2)
          (lookup.run (Database.initial afterGroupRow.1.db dirty) afterGroupRow.2) :=
  lookups_independent_of_history afterGroupRow_reachable

end Database

end LicensingServer
