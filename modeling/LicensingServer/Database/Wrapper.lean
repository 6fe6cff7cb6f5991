import LicensingServer.Database.Sqliter

/-!
Owns the members of `csqliter` that `Database` does not call: the other bind
functions and `runsinglestepstatement`, and which values survive the way from a
column into `rowdata`.

Does not own opening and closing the file.
-/

set_option autoImplicit false

namespace LicensingServer

open LicensingServer.Foundations

namespace Csqliter

variable {Stmt World : Type}

/-! ### Parameters -/

/-- What all bind functions do, once the name is a string. -/
def pushParameter (name : Bytes) (val : CdbVal) (self : Csqliter Stmt) : Csqliter Stmt :=
  { self with statementdirty := true, valsin := self.valsin ++ [⟨cString name, val⟩] }

/-- `bindint(const char *, sqlite3_int64)`. -/
def bindint (name : Bytes) (arg : Int) : Csqliter Stmt → Csqliter Stmt :=
  pushParameter name { CdbVal.empty with valtype := .intdbval, ival := arg }

/-- `bindfloat(const char *, double)`. -/
def bindfloat (name : Bytes) (arg : BitVec 64) : Csqliter Stmt → Csqliter Stmt :=
  pushParameter name { CdbVal.empty with valtype := .floatdbval, fval := arg }

/-- `bindblob(const char *, unsignedcharvector &)`. -/
def bindblob (name arg : Bytes) : Csqliter Stmt → Csqliter Stmt :=
  pushParameter name { CdbVal.empty with valtype := .blobdbval, blob := arg }

/-- `bindnull(const char *)`. -/
def bindnull (name : Bytes) : Csqliter Stmt → Csqliter Stmt :=
  pushParameter name CdbVal.empty

/-! ### Rows -/

/-- The values that come back from an entry of `rowdata` as they were: integers
that fit an `int`, texts without a zero byte, and blobs that are not empty. -/
def Kept : SqlValue → Prop
  | .null | .real _ => True
  | .integer value => -2 ^ 31 ≤ value ∧ value < 2 ^ 31
  | .text bytes => (0 : UInt8) ∉ bytes
  | .blob bytes => bytes ≠ []

instance (value : SqlValue) : Decidable (Kept value) := by
  cases value <;> unfold Kept <;> infer_instance

theorem toInt_ofInt_eq_iff (value : Int) :
    (BitVec.ofInt 32 value).toInt = value ↔ -2 ^ 31 ≤ value ∧ value < 2 ^ 31 := by
  rw [BitVec.toInt_ofInt]
  constructor
  · intro same
    have below := @Int.bmod_lt value (2 ^ 32) (by decide)
    have above := @Int.le_bmod value (2 ^ 32) (by decide)
    rw [same] at below above
    norm_num at below above ⊢
    omega
  · intro fits
    exact Int.bmod_eq_of_le (by omega) (by omega)

theorem cString_eq_iff (bytes : Bytes) : cString bytes = bytes ↔ (0 : UInt8) ∉ bytes := by
  constructor
  · intro same
    rw [← same]
    exact no_zero_cString bytes
  · exact cString_of_no_zero

/-- What is stored is bound again as the same value exactly when it is kept. -/
theorem bound_store_eq_iff (old : CdbVal) (value : SqlValue) :
    (old.store value).bound = value ↔ Kept value := by
  cases value with
  | null => simp [CdbVal.store, CdbVal.bound, Kept]
  | integer value =>
      simp only [CdbVal.store, CdbVal.bound, Kept, SqlValue.integer.injEq]
      exact toInt_ofInt_eq_iff value
  | real bits => simp [CdbVal.store, CdbVal.bound, Kept]
  | text bytes =>
      simp only [CdbVal.store, CdbVal.bound, Kept, SqlValue.text.injEq]
      exact cString_eq_iff bytes
  | blob bytes =>
      -- an empty blob is stored, and bound as a null
      simp only [CdbVal.store, CdbVal.bound, Kept]
      by_cases empty : bytes = []
      · simp [empty]
      · simp [empty]

/-- A row that is read to its end. -/
theorem bound_readColumns_iff {options : CsqliterOptions} {columns : List SqlValue}
    {expected : List DbValType} {old row : List CdbVal}
    (read : readColumns options columns expected old = (row, .rowresultdb)) :
    row.map CdbVal.bound = columns ↔ ∀ column ∈ columns, Kept column := by
  induction columns generalizing expected old row with
  | nil =>
      obtain ⟨rfl, -⟩ := Prod.mk.inj read
      simp
  | cons column columns inductionHypothesis =>
      unfold readColumns at read
      simp only at read
      split_ifs at read with mismatch
      · cases (Prod.mk.inj read).2
      · generalize tail : readColumns options columns expected.tail old.tail = rest at read
        rcases rest with ⟨rest, result⟩
        obtain ⟨rfl, rfl⟩ := Prod.mk.inj read
        have later := inductionHypothesis tail
        rw [List.map_cons, List.cons.injEq, bound_store_eq_iff, later, List.forall_mem_cons]

/-- What a step that delivers a row leaves in `rowdata` is bound as that row,
whatever the row that was there and the options, if and only if every integer of
it fits an `int`, no text of it has a zero byte, and no blob of it is empty. -/
theorem rowdata_eq_iff (api : Sqlite World Stmt) {self after : Csqliter Stmt}
    {world next : World} {stmt : Stmt} {columns : List SqlValue}
    (live : self.litestmnt = some stmt) (stepped : api.step world stmt = (next, .row columns))
    {last : World} (delivered : stepstatement api self world = (.rowresultdb, after, last)) :
    after.rowdata.map CdbVal.bound = columns ↔ ∀ column ∈ columns, Kept column := by
  unfold stepstatement at delivered
  cases opened : self.db with
  | false => simp [opened] at delivered
  | true =>
      simp only [opened, live, stepped, Bool.not_true, Bool.false_eq_true, if_false] at delivered
      split_ifs at delivered
      · cases (Prod.mk.inj delivered).1
      · generalize read : readColumns self.options columns self.valtypesout
          (resizeRow columns.length self.rowdata) = rest at delivered
        rcases rest with ⟨row, result⟩
        obtain ⟨rfl, same⟩ := Prod.mk.inj delivered
        obtain ⟨rfl, -⟩ := Prod.mk.inj same
        exact bound_readColumns_iff read

/-- SQLite with one statement, which delivers this row for ever. -/
def rowSqlite (columns : List SqlValue) : Sqlite Unit Unit where
  prepare world _ := (world, .ok ())
  bindParameterIndex _ _ _ := 1
  bind world _ _ _ := (world, true)
  step world _ := (world, .row columns)
  finalize world _ := world

/-- A wrapper that reads one integer of each row. -/
def integerReader : Csqliter Unit where
  options := .initial
  db := true
  litestmnt := some ()
  statementdirty := false
  stmntsql := ascii "SELECT expiry FROM License;"
  valsin := []
  valtypesout := [.intdbval]
  rowdata := []

/-- Seconds since 1970 do not fit an `int` from 2038 on. -/
theorem rowdata_eq_iff_wide_integer : ∃ after,
    stepstatement (rowSqlite [.integer 2200000000]) integerReader () =
        (.rowresultdb, after, ()) ∧
      after.rowdata.map CdbVal.bound ≠ [.integer 2200000000] := by
  refine ⟨_, rfl, ?_⟩
  rw [Ne, rowdata_eq_iff (rowSqlite [.integer 2200000000]) (show integerReader.litestmnt = some ()
    from rfl) (show _ = ((), StepResult.row [.integer 2200000000]) from rfl) rfl]
  decide

end Csqliter

end LicensingServer
