import LicensingServer.Authorization.Decision
import LicensingServer.Database.Grants

/-!
Owns which rows a lookup for a client ID depends on: two databases that agree on
the client's own rows are told apart exactly when the client ID has a zero byte.

Does not own how the client ID reached the server.
-/

set_option autoImplicit false

namespace LicensingServer

open LicensingServer.Foundations

namespace Authorization

/-- The databases have the same rows for the client. -/
structure AgreeOn (clientID : Bytes) (tables other : Tables) : Prop where
  user : ∀ row : UserRow, row.clientID = .text clientID → (row ∈ tables.user ↔ row ∈ other.user)
  userValidIP : ∀ row : UserValidIPRow, row.clientID = .text clientID →
    (row ∈ tables.userValidIP ↔ row ∈ other.userValidIP)

/-- What the lookups and the decision on them return for the client, from an open
wrapper over these tables. -/
structure Answered (clientID ip : Bytes) (tables : Tables) (now : Int) (licenseType : Bytes)
    (validIPs : List Bytes) (decision : Except Exception Bool) : Prop where
  licenseType : ∀ wrapper world, Database.Opened tables now wrapper world →
    (Database.getUserLicenseType tableSqlite clientID wrapper world).1 = licenseType
  validIPs : ∀ wrapper world rounds, Database.Opened tables now wrapper world →
    tables.userValidIP.length < rounds → ∃ rest,
      Database.getUserValidIPs tableSqlite rounds clientID wrapper world = some (validIPs, rest)
  decision : ∀ id wrapper world rounds, Database.Opened tables now wrapper world →
    tables.userValidIP.length < rounds → ∃ rest,
      checkLoginRequest tableSqlite rounds ⟨id, clientID, ip⟩ wrapper world = some (decision, rest)

theorem answered (clientID ip : Bytes) (tables : Tables) (now : Int) :
    Answered clientID ip tables now (foundLicense tables now clientID)
      (readableTexts (Query.validIP.rows tables now (.text (cString clientID))))
      (verdict (foundLicense tables now clientID)) := by
  constructor
  · intro wrapper world opened
    exact Database.getUserLicenseType_value opened clientID
  · intro wrapper world rounds opened enough
    exact Database.getUserValidIPs_value opened clientID enough
  · intro id wrapper world rounds opened enough
    exact checkLoginRequest_value opened enough _

/-- Whatever two databases that agree on the client's rows hold for others, they
answer the same for the client. -/
def Apart (clientID : Bytes) : Prop :=
  ∀ (tables other : Tables) (now : Int) (ip : Bytes), UserValidIPKey tables.userValidIP →
    UserValidIPKey other.userValidIP → AgreeOn clientID tables other →
    ∃ licenseType validIPs decision,
      Answered clientID ip tables now licenseType validIPs decision ∧
        Answered clientID ip other now licenseType validIPs decision

/-! ### Client IDs without zero bytes -/

theorem AgreeOn.licenseType_rows {clientID : Bytes} {tables other : Tables}
    (agree : AgreeOn clientID tables other) (now : Int) :
    Query.licenseType.rows tables now (.text clientID) =
      Query.licenseType.rows other now (.text clientID) := by
  rw [Query.licenseType_rows_eq, Query.licenseType_rows_eq]
  have same : ∀ row : UserRow, row.key = some (.text clientID) →
      (row ∈ tables.user ↔ row ∈ other.user) := by
    intro row isKey
    exact agree.user row (SqlValue.asKey_eq_text_iff.mp isKey)
  rw [tables.user_keyed.owned_eq other.user_keyed same]

theorem AgreeOn.validIP_rows {clientID : Bytes} {tables other : Tables}
    (agree : AgreeOn clientID tables other) (keyed : UserValidIPKey tables.userValidIP)
    (otherKeyed : UserValidIPKey other.userValidIP) (now : Int) :
    Query.validIP.rows tables now (.text clientID) =
      Query.validIP.rows other now (.text clientID) := by
  rw [Query.validIP_rows_eq, Query.validIP_rows_eq]
  have same : ∀ row : UserValidIPRow, row.key = some (.text clientID) →
      (row ∈ tables.userValidIP ↔ row ∈ other.userValidIP) := by
    intro row isKey
    exact agree.userValidIP row (SqlValue.asKey_eq_text_iff.mp isKey)
  rw [KeyedTable.Keyed.owned_eq keyed otherKeyed same]

theorem apart_of_no_zero {clientID : Bytes} (clean : (0 : UInt8) ∉ clientID) : Apart clientID := by
  intro tables other now ip keyed otherKeyed agree
  have here := answered clientID ip tables now
  have there := answered clientID ip other now
  have license : foundLicense tables now clientID = foundLicense other now clientID := by
    unfold foundLicense
    rw [cString_of_no_zero clean, agree.licenseType_rows now]
  rw [cString_of_no_zero clean] at here there
  rw [← license, ← agree.validIP_rows keyed otherKeyed now] at there
  exact ⟨_, _, _, here, there⟩

/-! ### Client IDs with a zero byte -/

/-- A database of one `Group` license, for the client whose ID is the given one
up to its zero byte. -/
def shortenedTables (clientID : Bytes) : Tables where
  user := [⟨.text (cString clientID), .text groupLicense,
    some ⟨false, ascii "1", by decide, by decide +kernel⟩⟩]
  userValidIP := []
  user_key := List.pairwise_singleton _ _

def emptyTables : Tables := grantedTables []

theorem cString_ne_of_zero {clientID : Bytes} (zero : (0 : UInt8) ∈ clientID) :
    cString clientID ≠ clientID := by
  intro same
  have clean := no_zero_cString clientID
  rw [same] at clean
  exact clean zero

/-- Neither database has a row for the client. -/
theorem shortenedTables_agree {clientID : Bytes} (zero : (0 : UInt8) ∈ clientID) :
    AgreeOn clientID (shortenedTables clientID) emptyTables := by
  constructor
  · intro row owner
    constructor
    · intro member
      rw [List.mem_singleton.mp member] at owner
      exact absurd (SqlValue.text.inj owner) (cString_ne_of_zero zero)
    · intro member
      cases member
  · intro row _
    exact Iff.rfl

theorem foundLicense_shortenedTables (clientID : Bytes) :
    foundLicense (shortenedTables clientID) 0 clientID = groupLicense := by
  apply (foundLicense_eq (by decide) _ _ _).mpr
  refine ⟨_, List.mem_singleton_self _, rfl, ⟨groupLicense, rfl, by decide⟩, ?_⟩
  simp only [UserRow.unexpired]
  decide

/-- A zero byte lets the client pass for another one. -/
theorem not_apart_of_zero {clientID : Bytes} (zero : (0 : UInt8) ∈ clientID) :
    ¬ Apart clientID := by
  intro apart
  rcases apart (shortenedTables clientID) emptyTables 0 [] List.Pairwise.nil List.Pairwise.nil
      (shortenedTables_agree zero) with ⟨licenseType, _, _, here, there⟩
  have opened : ∀ tables : Tables, Database.Opened tables 0 (Database.initial true false)
      ⟨tables, 0, fun _ => none, 0⟩ := fun _ => ⟨rfl, rfl, rfl, rfl⟩
  have group := (here.licenseType _ _ (opened _)).symm.trans
    ((answered clientID [] _ 0).licenseType _ _ (opened _))
  have none := (there.licenseType _ _ (opened _)).symm.trans
    ((answered clientID [] _ 0).licenseType _ _ (opened _))
  rw [foundLicense_shortenedTables] at group
  have absent : foundLicense emptyTables 0 clientID = [] := rfl
  rw [absent] at none
  exact absurd (group.symm.trans none) (by decide)

/-- A client ID stands for no other one exactly when it has no zero byte. -/
theorem identities_apart_iff (clientID : Bytes) : Apart clientID ↔ (0 : UInt8) ∉ clientID := by
  constructor
  · intro apart zero
    exact not_apart_of_zero zero apart
  · exact apart_of_no_zero

/-- The test client's ID followed by a zero byte is answered from the test
client's rows. -/
theorem zero_byte_alias : ¬ Apart (ascii "TESTING_CLIENT" ++ [0]) :=
  not_apart_of_zero (by decide)

end Authorization

end LicensingServer
