import LicensingServer.Database.Sqlite

/-!
Owns the wrapper class `csqliter` as far as `Database` uses it: its state, and
its members as functions on that state and the SQLite world.

Does not own opening and closing a database file, the log, or the members that
only write `valcountandtypesmatch` and `lastinsertrowid`, which nothing reads.
-/

set_option autoImplicit false

namespace LicensingServer

open LicensingServer.Foundations

inductive DbResultType
  | successdb
  | rowresultdb
  | typesdifferentdberror
  | compilesqldberror
  | binddberror
  | busydberror
  | resultcountmismatchdberror
  | resulttypemismatchdberror
  | otherdberror
deriving DecidableEq, Repr

inductive DbValType
  | intdbval
  | floatdbval
  | strdbval
  | blobdbval
  | nulldbval
deriving DecidableEq, Repr

/-- `cdbval`: every member is always there, whatever the type says. -/
structure CdbVal where
  valtype : DbValType
  ival : Int
  fval : BitVec 64
  sval : Bytes
  blob : Bytes
deriving DecidableEq, Repr

def CdbVal.empty : CdbVal := ⟨.nulldbval, 0, 0, [], []⟩

structure CdbParameter where
  name : Bytes
  val : CdbVal
deriving DecidableEq, Repr

structure CsqliterOptions where
  valtypemismatchcausesfailure : Bool
  nullisavaltypemismatch : Bool
  valcountmismatchcausesfailure : Bool
deriving DecidableEq, Repr

/-- `csqliteroptions::csqliteroptions`. -/
def CsqliterOptions.initial : CsqliterOptions := ⟨true, false, true⟩

structure Csqliter (Stmt : Type) where
  options : CsqliterOptions
  /-- Whether `db` is not null. -/
  db : Bool
  litestmnt : Option Stmt
  statementdirty : Bool
  stmntsql : Bytes
  valsin : List CdbParameter
  valtypesout : List DbValType
  rowdata : List CdbVal

/-! ### Column values -/

/-- `sqlite3_column_type`. -/
def SqlValue.columnType : SqlValue → DbValType
  | .null => .nulldbval
  | .integer _ => .intdbval
  | .real _ => .floatdbval
  | .text _ => .strdbval
  | .blob _ => .blobdbval

/-- Write a column into an entry of `rowdata`. Integers go through a 32-bit
`int`, and texts are assigned from a `char *`. -/
def CdbVal.store (old : CdbVal) : SqlValue → CdbVal
  | .null => { old with valtype := .nulldbval, ival := 0, sval := [] }
  | .integer value => { old with valtype := .intdbval, ival := (BitVec.ofInt 32 value).toInt }
  | .real bits => { old with valtype := .floatdbval, fval := bits }
  | .text bytes => { old with valtype := .strdbval, sval := cString bytes }
  | .blob bytes => { old with valtype := .blobdbval, blob := bytes }

/-- The value that `bindparameter` binds for an entry of `valsin`. Of an empty
vector there is no first byte to point at; the pointer is null in practice, and
`sqlite3_bind_blob` binds NULL for it. -/
def CdbVal.bound (val : CdbVal) : SqlValue :=
  match val.valtype with
  | .nulldbval => .null
  | .intdbval => .integer val.ival
  | .floatdbval => .real val.fval
  | .strdbval => .text val.sval
  | .blobdbval => if val.blob = [] then .null else .blob val.blob

/-- The column loop of `stepstatement`: check each column against the type
expected of it and store it, up to the first mismatch. -/
def readColumns (options : CsqliterOptions) :
    List SqlValue → List DbValType → List CdbVal → List CdbVal × DbResultType
  | [], _, _ => ([], .rowresultdb)
  | column :: columns, expected, old =>
      let mismatch := options.valtypemismatchcausesfailure &&
        expected.head? != some column.columnType &&
        (column.columnType != .nulldbval || options.nullisavaltypemismatch)
      if mismatch then (old, .resulttypemismatchdberror)
      else
        let (rest, result) := readColumns options columns expected.tail old.tail
        ((old.headD .empty).store column :: rest, result)

/-- `rowdata.resize(numout)`. -/
def resizeRow (size : Nat) (row : List CdbVal) : List CdbVal :=
  row.take size ++ List.replicate (size - row.length) .empty

namespace Csqliter

variable {World Stmt : Type} (api : Sqlite World Stmt)

/-! ### Statement level -/

def finalizestatement (self : Csqliter Stmt) (world : World) : Csqliter Stmt × World :=
  let self := { self with valsin := [], valtypesout := [] }
  if self.db then
    match self.litestmnt with
    | none => (self, world)
    | some stmt => ({ self with litestmnt := none }, api.finalize world stmt)
  else (self, world)

theorem finalizestatement_of_none {self : Csqliter Stmt} (idle : self.litestmnt = none)
    (world : World) :
    finalizestatement api self world = ({ self with valsin := [], valtypesout := [] }, world) := by
  unfold finalizestatement
  cases self.db <;> simp [idle]

theorem finalizestatement_of_live {self : Csqliter Stmt} {stmt : Stmt} (opened : self.db = true)
    (live : self.litestmnt = some stmt) (world : World) :
    finalizestatement api self world =
      ({ self with valsin := [], valtypesout := [], litestmnt := none },
        api.finalize world stmt) := by
  unfold finalizestatement
  simp [opened, live]

def setsql (sql : Bytes) (self : Csqliter Stmt) (world : World) : Csqliter Stmt × World :=
  let (self, world) := finalizestatement api self world
  ({ self with statementdirty := true, stmntsql := sql }, world)

/-- `bindstr(const char *, const char *)`: both arguments are read as C strings. -/
def bindstr (name arg : Bytes) (self : Csqliter Stmt) : Csqliter Stmt :=
  let val := { CdbVal.empty with valtype := .strdbval, sval := cString arg }
  { self with statementdirty := true, valsin := self.valsin ++ [⟨cString name, val⟩] }

def pushvaltypeout (valtype : DbValType) (self : Csqliter Stmt) : Csqliter Stmt :=
  { self with valtypesout := self.valtypesout ++ [valtype] }

/-- A statement that is still there is forgotten, not finalized: the member is
set to null before it is passed to `sqlite3_finalize`. -/
def compilesql (self : Csqliter Stmt) (world : World) :
    DbResultType × Csqliter Stmt × World :=
  if !self.db then (.otherdberror, self, world)
  else if self.stmntsql = [] then (.otherdberror, self, world)
  else
    match api.prepare world self.stmntsql with
    | (world, .ok stmt) => (.successdb, { self with litestmnt := some stmt }, world)
    | (world, .busy) => (.busydberror, { self with litestmnt := none }, world)
    | (world, .error) => (.otherdberror, { self with litestmnt := none }, world)

/-- Whether the parameter could be bound. -/
def bindparameter (db : Bool) (stmt : Stmt) (param : CdbParameter) (world : World) :
    Bool × World :=
  if !db then (false, world)
  else
    let index := api.bindParameterIndex world stmt (ascii ":" ++ param.name)
    if index = 0 then (false, world)
    else
      let (world, bound) := api.bind world stmt index param.val.bound
      (bound, world)

/-- The loop over `valsin` in `compilestatement`. -/
def bindparameters (db : Bool) (stmt : Stmt) : List CdbParameter → World → Bool × World
  | [], world => (true, world)
  | param :: rest, world =>
      match bindparameter api db stmt param world with
      | (true, world) => bindparameters db stmt rest world
      | (false, world) => (false, world)

def compilestatement (self : Csqliter Stmt) (world : World) :
    DbResultType × Csqliter Stmt × World :=
  match compilesql api self world with
  | (.successdb, self, world) =>
      match self.litestmnt with
      | none => (.successdb, self, world)
      | some stmt =>
          match bindparameters api self.db stmt self.valsin world with
          | (true, world) => (.successdb, self, world)
          | (false, world) => (.binddberror, finalizestatement api self world)
  | (failure, self, world) => (failure, finalizestatement api self world)

def stepstatement (self : Csqliter Stmt) (world : World) :
    DbResultType × Csqliter Stmt × World :=
  if !self.db then (.otherdberror, self, world)
  else
    match self.litestmnt with
    | none => (.otherdberror, self, world)  -- SQLITE_MISUSE
    | some stmt =>
        match api.step world stmt with
        | (world, .busy) => (.busydberror, self, world)
        | (world, .done) => (.successdb, self, world)
        | (world, .error) => (.otherdberror, self, world)
        | (world, .row columns) =>
            if columns.length ≠ self.valtypesout.length ∧
                self.options.valcountmismatchcausesfailure then
              (.resultcountmismatchdberror, self, world)
            else
              let (rowdata, result) := readColumns self.options columns self.valtypesout
                (resizeRow columns.length self.rowdata)
              (result, { self with rowdata := rowdata }, world)

/-- `runstep` once the statement is compiled. -/
def runcompiled (self : Csqliter Stmt) (world : World) : DbResultType × Csqliter Stmt × World :=
  match stepstatement api self world with
  | (.successdb, self, world) => (.successdb, finalizestatement api self world)
  | other => other

def runstep (self : Csqliter Stmt) (world : World) : DbResultType × Csqliter Stmt × World :=
  if self.statementdirty then
    match compilestatement api self world with
    | (.successdb, self, world) => runcompiled api { self with statementdirty := false } world
    | failure => failure
  else runcompiled api self world

end Csqliter

end LicensingServer
