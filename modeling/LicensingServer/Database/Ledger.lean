import LicensingServer.Database.Wrapper
import LicensingServer.Database.Lookups

/-!
Owns SQLite as a ledger of the connections and statements that are live, with
any answers, and the members of `csqliter` that open and close the file, over it.

A call on a connection or a statement that is not live has no defined behaviour:
the ledger notes it. Does not own which calls are safe.
-/

set_option autoImplicit false

namespace LicensingServer

open LicensingServer.Foundations

/-- What `sqlite3_open_v2` answers. -/
inductive OpenResult
  | ok
  /-- An error, with a connection that is still to be closed. -/
  | failed
  /-- There was no memory for a connection. -/
  | noMemory
deriving DecidableEq, Repr

/-- What a call answers, whichever it is. -/
structure Reply where
  opened : OpenResult
  busyTimeout : Bool
  prepared : PrepareResult Unit
  index : Nat
  bound : Bool
  stepped : StepResult

/-- The answers to come, how many calls were made, and what is live. Connections
and statements go by the number of calls before the one that made them; a
statement comes with its connection. -/
structure Ledger where
  replies : Nat → Reply
  made : Nat
  connections : List Nat
  statements : List (Nat × Nat)
  misused : Bool

namespace Ledger

def reply (ledger : Ledger) : Reply := ledger.replies ledger.made

def next (ledger : Ledger) : Ledger := { ledger with made := ledger.made + 1 }

def misuse (ledger : Ledger) : Ledger := { ledger.next with misused := true }

def IsLive (ledger : Ledger) (stmt : Nat) : Prop := stmt ∈ ledger.statements.map Prod.fst

instance (ledger : Ledger) (stmt : Nat) : Decidable (ledger.IsLive stmt) :=
  inferInstanceAs (Decidable (_ ∈ _))

/-- `sqlite3_open_v2`: the answer, and the connection that it writes. -/
def openV2 (ledger : Ledger) : OpenResult × Nat × Ledger :=
  match ledger.reply.opened with
  | .noMemory => (.noMemory, ledger.made, ledger.next)
  | answer =>
      (answer, ledger.made,
        { ledger.next with connections := ledger.made :: ledger.connections })

/-- `sqlite3_close`, which refuses while a statement of the connection is live,
and does nothing with a null pointer. -/
def close (connection : Option Nat) (ledger : Ledger) : Bool × Ledger :=
  match connection with
  | none => (true, ledger.next)
  | some connection =>
      if connection ∉ ledger.connections then (false, ledger.misuse)
      else if connection ∈ ledger.statements.map Prod.snd then (false, ledger.next)
      else (true, { ledger.next with connections := ledger.connections.erase connection })

/-- The calls at statement level, on a connection. Every text that is prepared has a
statement in it. -/
def sqlite (connection : Option Nat) : Sqlite Ledger Nat where
  prepare ledger _ :=
    match connection with
    | none => (ledger.misuse, .error)
    | some connection =>
        if connection ∉ ledger.connections then (ledger.misuse, .error)
        else
          match ledger.reply.prepared with
          | .ok _ =>
              ({ ledger.next with statements := (ledger.made, connection) :: ledger.statements },
                .ok ledger.made)
          | .busy => (ledger.next, .busy)
          | .error => (ledger.next, .error)
  bindParameterIndex ledger _ _ := ledger.reply.index
  bind ledger stmt _ _ :=
    if ledger.IsLive stmt then (ledger.next, ledger.reply.bound) else (ledger.misuse, false)
  step ledger stmt :=
    if ledger.IsLive stmt then (ledger.next, ledger.reply.stepped) else (ledger.misuse, .error)
  finalize ledger stmt :=
    if ledger.IsLive stmt then
      { ledger.next with statements := ledger.statements.filter fun entry => entry.1 ≠ stmt }
    else ledger.misuse

end Ledger

/-- An object of `csqliter` and SQLite: `db` as the connection that it points to,
and the other members. -/
structure Wrapper where
  connection : Option Nat
  members : Csqliter Nat
  ledger : Ledger

namespace Wrapper

/-- The members, with `db` as far as they look at it. -/
def self (wrapper : Wrapper) : Csqliter Nat :=
  { wrapper.members with db := wrapper.connection.isSome }

/-! ### Database level -/

/-- `openorcreate`; the flag only goes to SQLite. -/
def openorcreate (_create : Bool) (wrapper : Wrapper) : DbResultType × Wrapper :=
  match wrapper.ledger.openV2 with
  | (.ok, connection, ledger) =>
      (if ledger.reply.busyTimeout then .successdb else .otherdberror,
        { wrapper with connection := some connection, ledger := ledger.next })
  | (_, _, ledger) => (.otherdberror, { wrapper with connection := none, ledger })

def openexistingdb (wrapper : Wrapper) : DbResultType × Wrapper := wrapper.openorcreate false

/-- `closedb` leaves `litestmnt` as it is. -/
def closedb (wrapper : Wrapper) : DbResultType × Wrapper :=
  let ledger :=
    match wrapper.members.litestmnt with
    | none => wrapper.ledger
    | some stmt => (Ledger.sqlite wrapper.connection).finalize wrapper.ledger stmt
  let (closed, ledger) := ledger.close wrapper.connection
  (if closed then .successdb else .otherdberror, { wrapper with connection := none, ledger })

/-- The file must not exist: an attempt to open it has to fail first. -/
def createdb (wrapper : Wrapper) : DbResultType × Wrapper :=
  match wrapper.openorcreate false with
  | (.successdb, wrapper) => (.otherdberror, wrapper.closedb.2)
  | (_, wrapper) => wrapper.openorcreate true

/-! ### Statement level -/

def setsql (sql : Bytes) (wrapper : Wrapper) : Wrapper :=
  let (members, ledger) :=
    Csqliter.setsql (Ledger.sqlite wrapper.connection) sql wrapper.self wrapper.ledger
  { wrapper with members, ledger }

def runstep (wrapper : Wrapper) : DbResultType × Wrapper :=
  let (result, members, ledger) :=
    Csqliter.runstep (Ledger.sqlite wrapper.connection) wrapper.self wrapper.ledger
  (result, { wrapper with members, ledger })

/-- `runsinglestepstatement(int &)`: none where the argument is not written. -/
def runsinglestepstatement (wrapper : Wrapper) : DbResultType × Option Nat × Wrapper :=
  match wrapper.runstep with
  | (.successdb, wrapper) => (.successdb, some 0, wrapper)
  | (.rowresultdb, wrapper) =>
      let firstrow := wrapper.members.rowdata
      match wrapper.runstep with
      | (.successdb, wrapper) =>
          (.successdb, some 1,
            { wrapper with members := { wrapper.members with rowdata := firstrow } })
      | (other, wrapper) => (other, some 0, wrapper)
  | (failure, wrapper) => (failure, none, wrapper)

/-- The calls of the public members. -/
inductive Operation
  | openexistingdb
  | createdb
  | closedb
  | setsql (sql : Bytes)
  | bindstr (name arg : Bytes)
  | bindint (name : Bytes) (arg : Int)
  | bindfloat (name : Bytes) (arg : BitVec 64)
  | bindblob (name arg : Bytes)
  | bindnull (name : Bytes)
  | pushvaltypeout (valtype : DbValType)
  | runstep
  | runsinglestepstatement

/-- A member that makes no call into SQLite. -/
def change (wrapper : Wrapper) (member : Csqliter Nat → Csqliter Nat) : Wrapper :=
  { wrapper with members := member wrapper.members }

def perform (wrapper : Wrapper) : Operation → Wrapper
  | .openexistingdb => wrapper.openexistingdb.2
  | .createdb => wrapper.createdb.2
  | .closedb => wrapper.closedb.2
  | .setsql sql => wrapper.setsql sql
  | .bindstr name arg => wrapper.change (Csqliter.bindstr name arg)
  | .bindint name arg => wrapper.change (Csqliter.bindint name arg)
  | .bindfloat name arg => wrapper.change (Csqliter.bindfloat name arg)
  | .bindblob name arg => wrapper.change (Csqliter.bindblob name arg)
  | .bindnull name => wrapper.change (Csqliter.bindnull name)
  | .pushvaltypeout valtype => wrapper.change (Csqliter.pushvaltypeout valtype)
  | .runstep => wrapper.runstep.2
  | .runsinglestepstatement => wrapper.runsinglestepstatement.2.2

/-- `csqliter::csqliter`, with the dirty flag as it was allocated. -/
def constructed (dirty : Bool) (replies : Nat → Reply) : Wrapper :=
  ⟨none, Database.initial false dirty, ⟨replies, 0, [], [], false⟩⟩

end Wrapper

end LicensingServer
