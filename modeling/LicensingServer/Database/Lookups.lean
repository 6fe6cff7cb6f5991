import LicensingServer.Database.Sqliter

/-!
Owns the class `Database`: its constructor and the two lookups, over any SQLite
world.

The reading loop of `getUserValidIPs` takes a bound on the number of rounds,
since a world may answer rows for ever; it has no result when the bound is too
small.
-/

set_option autoImplicit false

namespace LicensingServer

open LicensingServer.Foundations

def licenseTypeSql : Bytes :=
  ascii "SELECT licenseType FROM User where clientID = :clientID " ++
    ascii "            and (expiryDateTime-strftime('%s', 'now')) > 0;"

def validIPSql : Bytes := ascii "SELECT ip FROM UserValidIP where clientID = :clientID;"

namespace Database

variable {World Stmt : Type} (api : Sqlite World Stmt)

/-- `Database::Database`: `opened` is whether the file could be opened. The
constructor leaves the dirty flag as it was allocated. -/
def initial (opened statementdirty : Bool) : Csqliter Stmt where
  options := .initial
  db := opened
  litestmnt := none
  statementdirty := statementdirty
  stmntsql := []
  valsin := []
  valtypesout := []
  rowdata := []

/-- The string in the first column of the current row. -/
def firstColumn (self : Csqliter Stmt) : Bytes := (self.rowdata.headD .empty).sval

/-- What both lookups do before their first step. -/
def query (sql clientID : Bytes) (self : Csqliter Stmt) (world : World) :
    Csqliter Stmt × World :=
  let (self, world) := Csqliter.setsql api sql self world
  (Csqliter.pushvaltypeout .strdbval
    (Csqliter.bindstr (ascii "clientID") (cString clientID) self), world)

def getUserLicenseType (clientID : Bytes) (self : Csqliter Stmt) (world : World) :
    Bytes × Csqliter Stmt × World :=
  let (self, world) := query api licenseTypeSql clientID self world
  match Csqliter.runstep api self world with
  | (.rowresultdb, self, world) => (firstColumn self, self, world)
  | (_, self, world) => ([], self, world)

/-- The loop `while (db.runstep() == rowresultdb)`. -/
def readValidIPs : Nat → Csqliter Stmt → World → Option (List Bytes × Csqliter Stmt × World)
  | 0, _, _ => none
  | rounds + 1, self, world =>
      match Csqliter.runstep api self world with
      | (.rowresultdb, self, world) =>
          (readValidIPs rounds self world).map fun (ips, last) => (firstColumn self :: ips, last)
      | (_, self, world) => some ([], self, world)

def getUserValidIPs (rounds : Nat) (clientID : Bytes) (self : Csqliter Stmt) (world : World) :
    Option (List Bytes × Csqliter Stmt × World) :=
  let (self, world) := query api validIPSql clientID self world
  readValidIPs api rounds self world

end Database

end LicensingServer
