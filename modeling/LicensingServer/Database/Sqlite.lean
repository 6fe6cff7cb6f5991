import LicensingServer.Basic

/-!
Owns the calls that the wrapper makes into SQLite, as a parameter: a world that
the calls act on, statement handles, and what each call can answer.

Does not own what any statement means; that is a property of a world.
-/

set_option autoImplicit false

namespace LicensingServer

open LicensingServer.Foundations

/-- A value as SQLite stores and returns it. A real is kept as its 64 bits, which
are never those of a NaN. -/
inductive SqlValue
  | null
  | integer (value : Int)
  | real (bits : BitVec 64)
  | text (bytes : Bytes)
  | blob (bytes : Bytes)
deriving DecidableEq, Repr

/-- What `sqlite3_prepare_v2` answers for a text with a statement in it. -/
inductive PrepareResult (Stmt : Type)
  | ok (stmt : Stmt)
  | busy
  | error

/-- What `sqlite3_step` answers, with the columns of a row. -/
inductive StepResult
  | busy
  | done
  | row (columns : List SqlValue)
  | error
deriving DecidableEq

/-- The SQLite calls of the wrapper, as actions on a world. -/
structure Sqlite (World Stmt : Type) where
  prepare : World → Bytes → World × PrepareResult Stmt
  bindParameterIndex : World → Stmt → Bytes → Nat
  /-- `sqlite3_bind_int64`, `_double`, `_text`, `_blob` and `_null`. -/
  bind : World → Stmt → Nat → SqlValue → World × Bool
  step : World → Stmt → World × StepResult
  finalize : World → Stmt → World

end LicensingServer
