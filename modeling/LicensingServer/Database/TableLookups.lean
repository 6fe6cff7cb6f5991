import LicensingServer.Database.Tables

/-!
Owns the values of the two lookups of `Database` on tables, from any state in
which an earlier lookup can have left an open database: the selected rows as far
as the wrapper can read them.
-/

set_option autoImplicit false

namespace LicensingServer

open LicensingServer.Foundations

/-- The string that the wrapper reads from a column where it expects a text.
Null is let through as the empty string, any other type is an error. -/
def readText : SqlValue → Option Bytes
  | .text bytes => some (cString bytes)
  | .null => some []
  | _ => none

/-- The rows before the first one that the wrapper cannot read. -/
def readableTexts : List SqlValue → List Bytes
  | [] => []
  | value :: rest =>
      match readText value with
      | none => []
      | some text => text :: readableTexts rest

theorem ofSql_licenseType : Query.ofSql licenseTypeSql = some .licenseType := by
  rw [Query.ofSql, if_pos rfl]

theorem ofSql_validIP : Query.ofSql validIPSql = some .validIP := by decide

theorem sqlEq_text {value : SqlValue} {bytes : Bytes} :
    sqlEq value (.text bytes) = true ↔ value = .text bytes := by
  constructor
  · intro equal
    simp only [sqlEq, Bool.and_eq_true] at equal
    exact eq_of_beq equal.2
  · rintro rfl
    simp [sqlEq]

namespace Database

/-- The one entry that a lookup leaves in `valsin`. -/
def clientIDParameter (clientID : Bytes) : CdbParameter :=
  ⟨ascii "clientID", { CdbVal.empty with valtype := .strdbval, sval := cString clientID }⟩

/-- A lookup overwrites all that an earlier one left in the wrapper, apart from
the row buffer. -/
theorem query_state {World Stmt : Type} (api : Sqlite World Stmt) (sql clientID : Bytes)
    (wrapper : Csqliter Stmt) (world : World) (opened : wrapper.db = true) :
    (query api sql clientID wrapper world).1 =
      { options := wrapper.options, db := true, litestmnt := none, statementdirty := true,
        stmntsql := sql, valsin := [clientIDParameter clientID], valtypesout := [.strdbval],
        rowdata := wrapper.rowdata } := by
  have name : cString (ascii "clientID") = ascii "clientID" := by decide
  cases live : wrapper.litestmnt <;>
    simp [query, Csqliter.setsql, Csqliter.finalizestatement, Csqliter.bindstr,
      Csqliter.pushvaltypeout, opened, live, clientIDParameter, name, cString_cString]

section TableWorld

variable {wrapper : Csqliter Nat} {world : TableWorld}

/-- An open wrapper with the options of its constructor, over these tables at
this time. Every member keeps this. -/
structure Opened (tables : Tables) (now : Int) (wrapper : Csqliter Nat) (world : TableWorld) :
    Prop where
  options : wrapper.options = .initial
  db : wrapper.db = true
  tables : world.tables = tables
  now : world.now = now

variable {tables : Tables} {now : Int}

theorem Opened.finalizestatement (opened : Opened tables now wrapper world) :
    Opened tables now (Csqliter.finalizestatement tableSqlite wrapper world).1
      (Csqliter.finalizestatement tableSqlite wrapper world).2 := by
  unfold Csqliter.finalizestatement
  rw [if_pos opened.db]
  cases live : wrapper.litestmnt with
  | none => exact ⟨opened.options, opened.db, opened.tables, opened.now⟩
  | some stmt => exact ⟨opened.options, opened.db, opened.tables, opened.now⟩

theorem Opened.query (opened : Opened tables now wrapper world) (sql clientID : Bytes) :
    Opened tables now (Database.query tableSqlite sql clientID wrapper world).1
      (Database.query tableSqlite sql clientID wrapper world).2 := by
  have finalized := opened.finalizestatement
  exact ⟨finalized.options, finalized.db, finalized.tables, finalized.now⟩

theorem tableSqlite_bindparameters (world : TableWorld) (stmt : Nat) (params : List CdbParameter) :
    (Csqliter.bindparameters tableSqlite true stmt params world).2.tables = world.tables ∧
      (Csqliter.bindparameters tableSqlite true stmt params world).2.now = world.now := by
  induction params generalizing world with
  | nil => exact ⟨rfl, rfl⟩
  | cons param rest inductionHypothesis =>
      have kept : (Csqliter.bindparameter tableSqlite true stmt param world).2.tables =
            world.tables ∧
          (Csqliter.bindparameter tableSqlite true stmt param world).2.now = world.now := by
        by_cases named : ascii ":" ++ param.name = ascii ":clientID"
        · cases live : world.cursors stmt <;>
            simp [Csqliter.bindparameter, tableSqlite, named, live]
        · simp [Csqliter.bindparameter, tableSqlite, named]
      rw [Csqliter.bindparameters]
      rcases bound : Csqliter.bindparameter tableSqlite true stmt param world with ⟨success, next⟩
      rw [bound] at kept
      cases success with
      | true =>
          have later := inductionHypothesis next
          exact ⟨later.1.trans kept.1, later.2.trans kept.2⟩
      | false => exact kept

theorem Opened.compilesql (opened : Opened tables now wrapper world) :
    Opened tables now (Csqliter.compilesql tableSqlite wrapper world).2.1
      (Csqliter.compilesql tableSqlite wrapper world).2.2 := by
  unfold Csqliter.compilesql
  rw [if_neg (by simp [opened.db])]
  split
  · exact opened
  · simp only [tableSqlite]
    cases Query.ofSql wrapper.stmntsql with
    | none => exact ⟨opened.options, opened.db, opened.tables, opened.now⟩
    | some kind => exact ⟨opened.options, opened.db, opened.tables, opened.now⟩

theorem Opened.compilestatement (opened : Opened tables now wrapper world) :
    Opened tables now (Csqliter.compilestatement tableSqlite wrapper world).2.1
      (Csqliter.compilestatement tableSqlite wrapper world).2.2 := by
  have compiled := opened.compilesql
  unfold Csqliter.compilestatement
  generalize Csqliter.compilesql tableSqlite wrapper world = answer at compiled ⊢
  rcases answer with ⟨result, wrapper', world'⟩
  cases result with
  | successdb =>
      cases live : wrapper'.litestmnt with
      | none => simpa only [live] using compiled
      | some stmt =>
          have bindings := tableSqlite_bindparameters world' stmt wrapper'.valsin
          have stillOpen : wrapper'.db = true := compiled.db
          simp only [live, stillOpen]
          generalize Csqliter.bindparameters tableSqlite true stmt wrapper'.valsin world' = bound
            at bindings ⊢
          rcases bound with ⟨success, next⟩
          have kept : Opened tables now wrapper' next :=
            ⟨compiled.options, compiled.db, bindings.1.trans compiled.tables,
              bindings.2.trans compiled.now⟩
          cases success with
          | true => exact kept
          | false => exact kept.finalizestatement
  | _ => exact compiled.finalizestatement

theorem Opened.stepstatement (opened : Opened tables now wrapper world) :
    Opened tables now (Csqliter.stepstatement tableSqlite wrapper world).2.1
      (Csqliter.stepstatement tableSqlite wrapper world).2.2 := by
  unfold Csqliter.stepstatement
  rw [if_neg (by simp [opened.db])]
  cases wrapper.litestmnt with
  | none => exact opened
  | some stmt =>
      simp only [tableSqlite]
      cases world.cursors stmt with
      | none => exact opened
      | some cursor =>
          simp only
          cases cursor.remaining.getD
              (cursor.query.rows world.tables world.now cursor.clientID) with
          | nil => exact ⟨opened.options, opened.db, opened.tables, opened.now⟩
          | cons value rest =>
              simp only
              split
              · exact ⟨opened.options, opened.db, opened.tables, opened.now⟩
              · exact ⟨opened.options, opened.db, opened.tables, opened.now⟩

theorem Opened.runcompiled (opened : Opened tables now wrapper world) :
    Opened tables now (Csqliter.runcompiled tableSqlite wrapper world).2.1
      (Csqliter.runcompiled tableSqlite wrapper world).2.2 := by
  have stepped := opened.stepstatement
  unfold Csqliter.runcompiled
  generalize Csqliter.stepstatement tableSqlite wrapper world = answer at stepped ⊢
  rcases answer with ⟨result, wrapper', world'⟩
  cases result with
  | successdb => exact stepped.finalizestatement
  | _ => exact stepped

theorem Opened.runstep (opened : Opened tables now wrapper world) :
    Opened tables now (Csqliter.runstep tableSqlite wrapper world).2.1
      (Csqliter.runstep tableSqlite wrapper world).2.2 := by
  have compiled := opened.compilestatement
  unfold Csqliter.runstep
  cases wrapper.statementdirty with
  | false => exact opened.runcompiled
  | true =>
      rw [if_pos rfl]
      generalize Csqliter.compilestatement tableSqlite wrapper world = answer at compiled ⊢
      rcases answer with ⟨result, wrapper', world'⟩
      cases result with
      | successdb =>
          exact Opened.runcompiled
            ⟨compiled.options, compiled.db, compiled.tables, compiled.now⟩
      | _ => exact compiled

/-- A wrapper in the middle of a lookup: the statement is live, and `rows` are
still to come. -/
structure Reading (wrapper : Csqliter Nat) (world : TableWorld) (rows : List SqlValue) : Prop where
  options : wrapper.options = .initial
  db : wrapper.db = true
  compiled : wrapper.statementdirty = false
  types : wrapper.valtypesout = [.strdbval]
  cursor : ∃ stmt cursor, wrapper.litestmnt = some stmt ∧ world.cursors stmt = some cursor ∧
    cursor.remaining.getD (cursor.query.rows world.tables world.now cursor.clientID) = rows

/-- The next step at the end of the rows finishes the statement. -/
theorem Reading.step_done (reading : Reading wrapper world []) :
    (Csqliter.runstep tableSqlite wrapper world).1 = .successdb := by
  obtain ⟨stmt, cursor, live, there, rows⟩ := reading.cursor
  simp only [Csqliter.runstep, Csqliter.runcompiled, Csqliter.stepstatement, reading.compiled,
    reading.db, live, tableSqlite, there, rows]
  rfl

theorem Reading.step_unreadable {value : SqlValue} {rest : List SqlValue}
    (reading : Reading wrapper world (value :: rest)) (unreadable : readText value = none) :
    (Csqliter.runstep tableSqlite wrapper world).1 = .resulttypemismatchdberror := by
  obtain ⟨stmt, cursor, live, there, rows⟩ := reading.cursor
  simp only [Csqliter.runstep, Csqliter.runcompiled, Csqliter.stepstatement, reading.compiled,
    reading.db, live, tableSqlite, there, rows, reading.types, reading.options]
  cases value <;> first | rfl | exact absurd unreadable (by simp [readText])

theorem Reading.step_row {value : SqlValue} {rest : List SqlValue} {text : Bytes}
    (reading : Reading wrapper world (value :: rest)) (readable : readText value = some text) :
    ∃ wrapper' world', Csqliter.runstep tableSqlite wrapper world = (.rowresultdb, wrapper', world') ∧
      firstColumn wrapper' = text ∧ Reading wrapper' world' rest := by
  obtain ⟨stmt, cursor, live, there, rows⟩ := reading.cursor
  refine ⟨{ wrapper with rowdata :=
    [((resizeRow 1 wrapper.rowdata).headD CdbVal.empty).store value] },
    world.setCursor stmt (some { cursor with remaining := some rest }), ?_, ?_, ?_⟩
  · simp only [Csqliter.runstep, Csqliter.runcompiled, Csqliter.stepstatement, reading.compiled,
      reading.db, live, tableSqlite, there, rows, reading.types, reading.options]
    cases value <;> first | rfl | exact absurd readable (by simp [readText])
  · cases value <;> simp_all [firstColumn, CdbVal.store, readText]
  · exact ⟨reading.options, reading.db, reading.compiled, reading.types, stmt,
      { cursor with remaining := some rest }, live, by simp, rfl⟩

/-- What the first `runstep` of a lookup does before its first step: compile the
statement and bind the client ID up to its first zero byte. -/
theorem runstep_of_query (clientID : Bytes) {sql : Bytes} {kind : Query}
    (opened : Opened tables now wrapper world)
    (known : Query.ofSql sql = some kind) :
    ∃ wrapper' world',
      Csqliter.runstep tableSqlite (query tableSqlite sql clientID wrapper world).1
          (query tableSqlite sql clientID wrapper world).2 =
        Csqliter.runstep tableSqlite wrapper' world' ∧
      Reading wrapper' world'
        (kind.rows tables now (.text (cString clientID))) := by
  have asked := opened.query sql clientID
  have nonempty : sql ≠ [] := by
    intro empty
    have unknown : Query.ofSql [] = none := by decide
    rw [empty, unknown] at known
    exact absurd known (by simp)
  rw [query_state tableSqlite sql clientID wrapper world opened.db]
  generalize (query tableSqlite sql clientID wrapper world).2 = start at asked ⊢
  have name : ascii ":" ++ ascii "clientID" = ascii ":clientID" := by decide
  let prepared : TableWorld :=
    { start.setCursor start.fresh (some ⟨kind, .null, none⟩) with fresh := start.fresh + 1 }
  refine ⟨
    { options := wrapper.options, db := true, litestmnt := some start.fresh,
      statementdirty := false, stmntsql := sql, valsin := [clientIDParameter clientID],
      valtypesout := [.strdbval], rowdata := wrapper.rowdata },
    prepared.setCursor start.fresh (some ⟨kind, .text (cString clientID), none⟩), ?_, ?_⟩
  · simp [Csqliter.runstep, Csqliter.compilestatement, Csqliter.compilesql, nonempty, tableSqlite,
      known, Csqliter.bindparameters, Csqliter.bindparameter, name, TableWorld.setCursor,
      clientIDParameter, CdbVal.bound, prepared]
  · refine ⟨opened.options, rfl, rfl, rfl, _, ⟨kind, .text (cString clientID), none⟩, rfl,
      by simp, ?_⟩
    rw [← asked.tables, ← asked.now]
    rfl

/-! ### The two lookups -/

theorem Opened.getUserLicenseType (opened : Opened tables now wrapper world) (clientID : Bytes) :
    Opened tables now (Database.getUserLicenseType tableSqlite clientID wrapper world).2.1
      (Database.getUserLicenseType tableSqlite clientID wrapper world).2.2 := by
  have stepped := (opened.query licenseTypeSql clientID).runstep
  unfold Database.getUserLicenseType
  simp only
  generalize Csqliter.runstep tableSqlite _ _ = answer at stepped ⊢
  rcases answer with ⟨result, wrapper', world'⟩
  cases result <;> exact stepped

/-- The license lookup reads the first selected row. -/
theorem getUserLicenseType_value (opened : Opened tables now wrapper world) (clientID : Bytes) :
    (getUserLicenseType tableSqlite clientID wrapper world).1 =
      (((Query.licenseType.rows tables now (.text (cString clientID))).head?).bind
        readText).getD [] := by
  obtain ⟨wrapper', world', same, reading⟩ :=
    runstep_of_query clientID opened ofSql_licenseType
  simp only [getUserLicenseType, same]
  cases selected : Query.licenseType.rows tables now (.text (cString clientID)) with
  | nil =>
      rw [selected] at reading
      have ends := reading.step_done
      generalize Csqliter.runstep tableSqlite wrapper' world' = answer at ends ⊢
      rcases answer with ⟨result, left⟩
      obtain rfl := ends
      rfl
  | cons value rest =>
      rw [selected] at reading
      cases readable : readText value with
      | none =>
          have fails := reading.step_unreadable readable
          generalize Csqliter.runstep tableSqlite wrapper' world' = answer at fails ⊢
          rcases answer with ⟨result, left⟩
          obtain rfl := fails
          simp [readable]
      | some text =>
          obtain ⟨_, _, steps, first, _⟩ := reading.step_row readable
          simp [steps, first, readable]

theorem readValidIPs_value {rows : List SqlValue} {rounds : Nat}
    (reading : Reading wrapper world rows) (enough : rows.length < rounds) :
    ∃ last, readValidIPs tableSqlite rounds wrapper world = some (readableTexts rows, last) := by
  induction rows generalizing rounds wrapper world with
  | nil =>
      obtain ⟨fewer, rfl⟩ : ∃ fewer, rounds = fewer + 1 := ⟨rounds - 1, by simp at enough; omega⟩
      have ends := reading.step_done
      rw [readValidIPs]
      generalize Csqliter.runstep tableSqlite wrapper world = answer at ends ⊢
      rcases answer with ⟨result, left⟩
      obtain rfl := ends
      exact ⟨left, rfl⟩
  | cons value rest inductionHypothesis =>
      obtain ⟨fewer, rfl⟩ : ∃ fewer, rounds = fewer + 1 := ⟨rounds - 1, by simp at enough; omega⟩
      rw [readValidIPs]
      cases readable : readText value with
      | none =>
          have fails := reading.step_unreadable readable
          generalize Csqliter.runstep tableSqlite wrapper world = answer at fails ⊢
          rcases answer with ⟨result, left⟩
          obtain rfl := fails
          exact ⟨left, by simp [readableTexts, readable]⟩
      | some text =>
          obtain ⟨wrapper', world', steps, first, next⟩ := reading.step_row readable
          obtain ⟨last, tail⟩ := inductionHypothesis next (by simpa using enough)
          exact ⟨last, by simp [steps, tail, first, readableTexts, readable]⟩

/-- The address lookup reads all selected rows up to the first one that is not a
text, in a number of rounds that the table bounds. -/
theorem getUserValidIPs_value (opened : Opened tables now wrapper world) (clientID : Bytes)
    {rounds : Nat} (enough : tables.userValidIP.length < rounds) :
    ∃ last, getUserValidIPs tableSqlite rounds clientID wrapper world =
      some (readableTexts (Query.validIP.rows tables now (.text (cString clientID))), last) := by
  obtain ⟨wrapper', world', same, reading⟩ :=
    runstep_of_query clientID opened ofSql_validIP
  have bounded : (Query.validIP.rows tables now (.text (cString clientID))).length < rounds := by
    refine lt_of_le_of_lt ?_ enough
    simp only [Query.rows, List.length_map]
    exact List.length_filter_le _ _
  obtain ⟨last, value⟩ := readValidIPs_value reading bounded
  obtain ⟨fewer, rfl⟩ : ∃ fewer, rounds = fewer + 1 := ⟨rounds - 1, by omega⟩
  refine ⟨last, ?_⟩
  simp only [getUserValidIPs]
  rw [readValidIPs] at value ⊢
  rw [same]
  exact value

end TableWorld

end Database

end LicensingServer
