import LicensingServer.Database.Lookups

/-!
Owns the tables `User` and `UserValidIP` as data, the value of the two SELECT
statements over them, and the SQLite world in which every call succeeds and the
two statements are evaluated as SQL says.

Comparison of texts is bytewise over their full length. Texts of `expiryDateTime`
are decimal seconds.
-/

set_option autoImplicit false

namespace LicensingServer

open LicensingServer.Foundations

/-! ### Contents -/

/-- A decimal integer as text. -/
structure DecimalText where
  negative : Bool
  digits : Bytes
  some_digit : digits ≠ []
  all_digits : ∀ digit ∈ digits, 48 ≤ digit.toNat ∧ digit.toNat ≤ 57

/-- The number that SQLite's arithmetic reads from the text. -/
def DecimalText.value (text : DecimalText) : Int :=
  let magnitude : Nat := text.digits.foldl (fun value digit => 10 * value + (digit.toNat - 48)) 0
  if text.negative then -magnitude else magnitude

structure UserRow where
  clientID : SqlValue
  licenseType : SqlValue
  /-- Seconds since 1970, or null. -/
  expiryDateTime : Option DecimalText

structure UserValidIPRow where
  clientID : SqlValue
  ip : SqlValue
deriving DecidableEq

/-- The contents of the two tables. The key of `User` admits one row for each
client ID, and any number of rows whose client ID is null. -/
structure Tables where
  user : List UserRow
  userValidIP : List UserValidIPRow
  user_key : user.Pairwise fun left right =>
    left.clientID = .null ∨ left.clientID ≠ right.clientID

/-- `(expiryDateTime-strftime('%s', 'now')) > 0`; null is not positive. -/
def UserRow.unexpired (now : Int) (row : UserRow) : Bool :=
  match row.expiryDateTime with
  | none => false
  | some expiry => decide (0 < expiry.value - now)

inductive Query
  | licenseType
  | validIP
deriving DecidableEq

/-- The statement that a text is prepared to. -/
def Query.ofSql (sql : Bytes) : Option Query :=
  if sql = licenseTypeSql then some .licenseType
  else if sql = validIPSql then some .validIP
  else none

/-- SQL equality is never true of null. -/
def sqlEq (left right : SqlValue) : Bool := left != .null && left == right

/-- The rows that a statement selects, in storage order. -/
def Query.rows (tables : Tables) (now : Int) (clientID : SqlValue) : Query → List SqlValue
  | .licenseType =>
      (tables.user.filter fun row => sqlEq row.clientID clientID && row.unexpired now).map
        UserRow.licenseType
  | .validIP =>
      (tables.userValidIP.filter fun row => sqlEq row.clientID clientID).map UserValidIPRow.ip

/-! ### The world -/

/-- A prepared statement: its parameter, null until it is bound, and the rows
still to come once it has been stepped. -/
structure Cursor where
  query : Query
  clientID : SqlValue
  remaining : Option (List SqlValue)

/-- The tables, the clock and the statements that are live. -/
structure TableWorld where
  tables : Tables
  now : Int
  cursors : Nat → Option Cursor
  fresh : Nat

def TableWorld.setCursor (world : TableWorld) (stmt : Nat) (cursor : Option Cursor) : TableWorld :=
  { world with cursors := fun other => if other = stmt then cursor else world.cursors other }

@[simp] theorem TableWorld.setCursor_tables (world : TableWorld) (stmt : Nat)
    (cursor : Option Cursor) : (world.setCursor stmt cursor).tables = world.tables := rfl

@[simp] theorem TableWorld.setCursor_now (world : TableWorld) (stmt : Nat)
    (cursor : Option Cursor) : (world.setCursor stmt cursor).now = world.now := rfl

@[simp] theorem TableWorld.setCursor_same (world : TableWorld) (stmt : Nat)
    (cursor : Option Cursor) : (world.setCursor stmt cursor).cursors stmt = cursor := by
  simp [setCursor]

/-- SQLite over the tables, with every call succeeding. -/
def tableSqlite : Sqlite TableWorld Nat where
  prepare world sql :=
    match Query.ofSql sql with
    | none => (world, .error)
    | some query =>
        ({ world.setCursor world.fresh (some ⟨query, .null, none⟩) with fresh := world.fresh + 1 },
          .ok world.fresh)
  bindParameterIndex _ _ name := if name = ascii ":clientID" then 1 else 0
  bind world stmt _ value :=
    match world.cursors stmt with
    | none => (world, false)
    | some cursor => (world.setCursor stmt (some { cursor with clientID := value }), true)
  step world stmt :=
    match world.cursors stmt with
    | none => (world, .error)
    | some cursor =>
        match cursor.remaining.getD (cursor.query.rows world.tables world.now cursor.clientID) with
        | [] => (world.setCursor stmt (some { cursor with remaining := some [] }), .done)
        | value :: rest =>
            (world.setCursor stmt (some { cursor with remaining := some rest }), .row [value])
  finalize world stmt := world.setCursor stmt none

end LicensingServer
