import LicensingServer.Database.TableLookups
import LicensingServer.Foundations.KeyedTable

/-!
Owns the primary keys of `User` and `UserValidIP`, the rows that grants leave in
`UserValidIP`, and exactly when a client's granted addresses are all read back.

Does not own what an address is used for.
-/

set_option autoImplicit false

namespace LicensingServer

open LicensingServer.Foundations

namespace SqlValue

/-- Null takes no place under a primary key. -/
def asKey : SqlValue → Option SqlValue
  | .null => none
  | value => some value

theorem asKey_eq_text_iff {value : SqlValue} {bytes : Bytes} :
    value.asKey = some (.text bytes) ↔ value = .text bytes := by
  cases value <;> simp [asKey]

end SqlValue

def UserRow.key (row : UserRow) : Option SqlValue := row.clientID.asKey
def UserValidIPRow.key (row : UserValidIPRow) : Option SqlValue := row.clientID.asKey

/-- `clientID TEXT PRIMARY KEY` of `UserValidIP`. -/
def UserValidIPKey (rows : List UserValidIPRow) : Prop :=
  KeyedTable.Keyed UserValidIPRow.key rows

theorem sqlEq_eq_decide_key (value : SqlValue) (clientID : Bytes) :
    sqlEq value (.text clientID) = decide (value.asKey = some (.text clientID)) := by
  rw [Bool.eq_iff_iff, sqlEq_text, decide_eq_true_iff, SqlValue.asKey_eq_text_iff]

theorem Tables.user_keyed (tables : Tables) : KeyedTable.Keyed UserRow.key tables.user := by
  apply tables.user_key.imp
  intro left right apart
  unfold UserRow.key
  rcases apart with null | differ
  · rw [null]
    exact .inl rfl
  · by_cases null : left.clientID = .null
    · rw [null]
      exact .inl rfl
    · right
      intro same
      apply differ
      cases leftID : left.clientID <;> cases rightID : right.clientID <;>
        simp_all [SqlValue.asKey]

/-- The rows that a query for a client is about are the rows under its key. -/
theorem Query.validIP_rows_eq (tables : Tables) (now : Int) (clientID : Bytes) :
    Query.validIP.rows tables now (.text clientID) =
      (KeyedTable.owned UserValidIPRow.key (.text clientID) tables.userValidIP).map
        UserValidIPRow.ip := by
  apply congrArg (List.map UserValidIPRow.ip)
  apply List.filter_congr
  intro row _
  exact sqlEq_eq_decide_key row.clientID clientID

theorem Query.licenseType_rows_eq (tables : Tables) (now : Int) (clientID : Bytes) :
    Query.licenseType.rows tables now (.text clientID) =
      ((KeyedTable.owned UserRow.key (.text clientID) tables.user).filter
        (UserRow.unexpired now)).map UserRow.licenseType := by
  rw [KeyedTable.owned, List.filter_filter]
  apply congrArg (List.map UserRow.licenseType)
  apply List.filter_congr
  intro row _
  rw [sqlEq_eq_decide_key, Bool.and_comm]
  rfl

/-! ### Grants -/

/-- A text as a statement can spell it out: the statement is a C string. -/
structure SqlLiteral where
  bytes : Bytes
  no_zero : (0 : UInt8) ∉ bytes

/-- `insert into UserValidIP values (clientID, ip)`. -/
structure Grant where
  clientID : SqlLiteral
  ip : SqlLiteral

def Grant.row (grant : Grant) : UserValidIPRow := ⟨.text grant.clientID.bytes, .text grant.ip.bytes⟩

/-- `UserValidIP` after the inserts, of which the key turns some away. -/
def granted (grants : List Grant) : List UserValidIPRow :=
  KeyedTable.insertAll UserValidIPRow.key (grants.map Grant.row)

theorem granted_keyed (grants : List Grant) : UserValidIPKey (granted grants) :=
  KeyedTable.keyed_insertAll _

/-- The addresses granted to a client, each once. -/
def Exactly (grants : List Grant) (clientID : Bytes) (ips : List Bytes) : Prop :=
  ips.Nodup ∧ ∀ ip, ip ∈ ips ↔
    ∃ grant ∈ grants, grant.clientID.bytes = clientID ∧ grant.ip.bytes = ip

/-- The first grant to a client. -/
def firstGrant (grants : List Grant) (clientID : Bytes) : Option Grant :=
  grants.find? fun grant => decide (grant.clientID.bytes = clientID)

theorem readableTexts_granted (grants : List Grant) (tables : Tables) (now : Int) (clientID : Bytes)
    (stored : tables.userValidIP = granted grants) :
    readableTexts (Query.validIP.rows tables now (.text clientID)) =
      ((firstGrant grants clientID).map fun grant => grant.ip.bytes).toList := by
  have key : (fun grant : Grant => decide (grant.row.key = some (.text clientID))) =
      fun grant => decide (grant.clientID.bytes = clientID) := by
    funext grant
    simp [Grant.row, UserValidIPRow.key, SqlValue.asKey]
  rw [Query.validIP_rows_eq, stored, granted, KeyedTable.owned_insertAll, List.find?_map]
  unfold firstGrant
  have same : ((fun row : UserValidIPRow => decide (row.key = some (.text clientID))) ∘ Grant.row) =
      fun grant => decide (grant.clientID.bytes = clientID) := key
  rw [same]
  cases grants.find? fun grant => decide (grant.clientID.bytes = clientID) with
  | none => rfl
  | some grant =>
      simp [readableTexts, readText, Grant.row, cString_of_no_zero grant.ip.no_zero]

theorem firstGrant_eq_none {grants : List Grant} {clientID : Bytes}
    (none : firstGrant grants clientID = none) :
    ∀ grant ∈ grants, grant.clientID.bytes ≠ clientID := by
  intro grant member same
  have refused := List.find?_eq_none.mp none grant member
  simp [same] at refused

theorem firstGrant_eq_some {grants : List Grant} {clientID : Bytes} {first : Grant}
    (found : firstGrant grants clientID = some first) :
    first ∈ grants ∧ first.clientID.bytes = clientID := by
  constructor
  · exact List.mem_of_find?_eq_some found
  · simpa using List.find?_some found

/-- No grant is made to a client whose ID no statement can spell out. -/
theorem no_grant_of_zero {grants : List Grant} {clientID : Bytes} (zero : (0 : UInt8) ∈ clientID) :
    ∀ grant ∈ grants, grant.clientID.bytes ≠ clientID := by
  intro grant _ same
  apply grant.clientID.no_zero
  rw [same]
  exact zero

theorem cString_of_granted {grant : Grant} {clientID : Bytes}
    (same : grant.clientID.bytes = clientID) : cString clientID = clientID := by
  rw [← same]
  exact cString_of_no_zero grant.clientID.no_zero

theorem exactly_firstGrant_iff (grants : List Grant) (clientID : Bytes) :
    Exactly grants clientID
        ((firstGrant grants (cString clientID)).map fun grant => grant.ip.bytes).toList ↔
      (∀ first ∈ grants, ∀ second ∈ grants, first.clientID.bytes = cString clientID →
        second.clientID.bytes = cString clientID → first.ip.bytes = second.ip.bytes) ∧
      ((0 : UInt8) ∈ clientID → ∀ grant ∈ grants, grant.clientID.bytes ≠ cString clientID) := by
  cases found : firstGrant grants (cString clientID) with
  | none =>
      have free := firstGrant_eq_none found
      constructor
      · intro _
        exact ⟨fun first member _ _ same => absurd same (free first member), fun _ => free⟩
      · intro _
        refine ⟨List.nodup_nil, ?_⟩
        intro ip
        constructor
        · intro member
          cases member
        · intro given
          rcases given with ⟨grant, member, same, -⟩
          have clean := cString_of_granted same
          exact absurd (same.trans clean.symm) (free grant member)
  | some first =>
      rcases firstGrant_eq_some found with ⟨firstIn, firstID⟩
      constructor
      · intro exactly
        rcases exactly.2 first.ip.bytes |>.mp (List.mem_singleton_self _) with
          ⟨grant, member, same, -⟩
        have clean := cString_of_granted same
        rw [clean]
        constructor
        · intro left leftIn right rightIn leftID rightID
          have leftIP := (exactly.2 left.ip.bytes).mpr ⟨left, leftIn, leftID, rfl⟩
          have rightIP := (exactly.2 right.ip.bytes).mpr ⟨right, rightIn, rightID, rfl⟩
          exact (List.mem_singleton.mp leftIP).trans (List.mem_singleton.mp rightIP).symm
        · intro zero
          exact no_grant_of_zero zero
      · intro covered
        rcases covered with ⟨sameIP, clear⟩
        have clean : cString clientID = clientID := by
          apply cString_of_no_zero
          intro zero
          exact clear zero first firstIn firstID
        rw [clean] at sameIP firstID
        refine ⟨List.pairwise_singleton _ _, ?_⟩
        intro ip
        constructor
        · intro member
          exact ⟨first, firstIn, firstID, (List.mem_singleton.mp member).symm⟩
        · intro given
          rcases given with ⟨grant, member, same, rfl⟩
          exact List.mem_singleton.mpr (sameIP grant member first firstIn same firstID)

/-- Whatever else is stored, and whatever was looked up before, the address
lookup returns what was granted to the client. -/
def GrantsKept (grants : List Grant) (clientID : Bytes) : Prop :=
  ∀ (tables : Tables) (now : Int) (wrapper : Csqliter Nat) (world : TableWorld) (rounds : Nat),
    tables.userValidIP = granted grants → Database.Opened tables now wrapper world →
      (granted grants).length < rounds →
      ∃ ips rest, Database.getUserValidIPs tableSqlite rounds clientID wrapper world =
        some (ips, rest) ∧ Exactly grants clientID ips

/-- Tables that hold the grants and nothing else. -/
def grantedTables (grants : List Grant) : Tables := ⟨[], granted grants, List.Pairwise.nil⟩

/-- A client's addresses are all kept exactly when it was granted at most one,
and shares its ID up to a zero byte with no client that was granted any. -/
theorem grantsKept_iff (grants : List Grant) (clientID : Bytes) :
    GrantsKept grants clientID ↔
      (∀ first ∈ grants, ∀ second ∈ grants, first.clientID.bytes = cString clientID →
        second.clientID.bytes = cString clientID → first.ip.bytes = second.ip.bytes) ∧
      ((0 : UInt8) ∈ clientID → ∀ grant ∈ grants, grant.clientID.bytes ≠ cString clientID) := by
  rw [← exactly_firstGrant_iff]
  constructor
  · intro kept
    have opened : Database.Opened (grantedTables grants) 0 (Database.initial true false)
        ⟨grantedTables grants, 0, fun _ => none, 0⟩ := ⟨rfl, rfl, rfl, rfl⟩
    rcases kept _ _ _ _ ((granted grants).length + 1) rfl opened (Nat.lt_succ_self _) with
      ⟨ips, rest, read, exactly⟩
    rcases Database.getUserValidIPs_value opened clientID (Nat.lt_succ_self _) with ⟨last, value⟩
    rw [readableTexts_granted grants _ _ _ rfl] at value
    have same := value.symm.trans read
    cases same
    exact exactly
  · intro exactly tables now wrapper world rounds stored opened enough
    rcases Database.getUserValidIPs_value opened clientID (by rw [stored]; exact enough) with
      ⟨last, value⟩
    rw [readableTexts_granted grants _ _ _ stored] at value
    exact ⟨_, last, value, exactly⟩

/-- Two addresses granted to one client. -/
def twoAddresses : List Grant :=
  [⟨⟨ascii "TESTING_CLIENT", by decide⟩, ⟨ascii "127.0.0.1", by decide⟩⟩,
    ⟨⟨ascii "TESTING_CLIENT", by decide⟩, ⟨ascii "10.0.0.1", by decide⟩⟩]

/-- The second address is lost. -/
theorem second_address_lost : ¬ GrantsKept twoAddresses (ascii "TESTING_CLIENT") := by
  intro kept
  have opened : Database.Opened (grantedTables twoAddresses) 0 (Database.initial true false)
      ⟨grantedTables twoAddresses, 0, fun _ => none, 0⟩ := ⟨rfl, rfl, rfl, rfl⟩
  rcases kept _ _ _ _ ((granted twoAddresses).length + 1) rfl opened (Nat.lt_succ_self _) with
    ⟨ips, rest, read, exactly⟩
  rcases Database.getUserValidIPs_value opened (ascii "TESTING_CLIENT") (Nat.lt_succ_self _) with
    ⟨last, value⟩
  rw [readableTexts_granted twoAddresses _ _ _ rfl] at value
  cases value.symm.trans read
  have covered := (exactly_firstGrant_iff twoAddresses (ascii "TESTING_CLIENT")).mp exactly
  have same := covered.1 _ (List.mem_cons_self) _ (List.mem_cons_of_mem _ List.mem_cons_self)
    (by decide) (by decide)
  exact absurd same (by decide)

end LicensingServer
