import LicensingServer.Database.TableLookups

/-!
Owns `Authorization::checkLoginRequest`: its body over any SQLite world, its
value on tables, and exactly when that value is the decision that the tables
call for.

Does not own what happens when SQLite calls fail.
-/

set_option autoImplicit false

namespace LicensingServer

open LicensingServer.Foundations

namespace Authorization

/-- The search loop over the valid addresses. -/
def isValidIP (ip : Bytes) : List Bytes → Bool
  | [] => false
  | validIP :: rest => if ip = validIP then true else isValidIP ip rest

/-- `Authorization::checkLoginRequest`; `rounds` bounds the reading loop of
`getUserValidIPs`. -/
def checkLoginRequest {World Stmt : Type} (api : Sqlite World Stmt) (rounds : Nat)
    (req : LoginRequest) (self : Csqliter Stmt) (world : World) :
    Option (Except Exception Bool × Csqliter Stmt × World) :=
  let (licenseType, self, world) := Database.getUserLicenseType api req.clientID self world
  if licenseType = groupLicense then
    (Database.getUserValidIPs api rounds req.clientID self world).map fun (validIPs, rest) =>
      if isValidIP req.ip validIPs then (.ok true, rest)
      else (.ok true, rest)  -- the `return true` after all branches
  else if licenseType = individualLicense then some (.error .exception, self, world)
  else some (.ok false, self, world)

/-! ### The value on tables -/

/-- The license type that the first query hands to the comparisons. -/
def foundLicense (tables : Tables) (now : Int) (clientID : Bytes) : Bytes :=
  (((Query.licenseType.rows tables now (.text (cString clientID))).head?).bind readText).getD []

/-- What `checkLoginRequest` makes of a license type, the address list aside. -/
def verdict (licenseType : Bytes) : Except Exception Bool :=
  if licenseType = groupLicense then .ok true
  else if licenseType = individualLicense then .error .exception
  else .ok false

/-- With every SQLite call succeeding, the call ends, and the license type alone
decides: the address list is read but both outcomes of the search return true. -/
theorem checkLoginRequest_value {tables : Tables} {now : Int} {wrapper : Csqliter Nat}
    {world : TableWorld} (opened : Database.Opened tables now wrapper world) {rounds : Nat}
    (enough : tables.userValidIP.length < rounds) (req : LoginRequest) :
    ∃ rest, checkLoginRequest tableSqlite rounds req wrapper world =
      some (verdict (foundLicense tables now req.clientID), rest) := by
  have value := Database.getUserLicenseType_value opened req.clientID
  have stillOpen := opened.getUserLicenseType req.clientID
  unfold checkLoginRequest verdict foundLicense
  generalize Database.getUserLicenseType tableSqlite req.clientID wrapper world = answer
    at value stillOpen ⊢
  rcases answer with ⟨licenseType, wrapper', world'⟩
  rw [← value]
  simp only
  split_ifs
  · obtain ⟨last, ips⟩ := Database.getUserValidIPs_value stillOpen req.clientID enough
    exact ⟨last, by simp only [ips, Option.map_some, ite_self]⟩
  · exact ⟨_, rfl⟩
  · exact ⟨_, rfl⟩

/-! ### The decision that the tables call for -/

/-- `User` holds an unexpired row for the client whose license type is `Group`. -/
def HasGroupLicense (tables : Tables) (now : Int) (clientID : Bytes) : Prop :=
  ∃ row ∈ tables.user, row.clientID = .text clientID ∧ row.licenseType = .text groupLicense ∧
    row.unexpired now = true

/-- `UserValidIP` holds a row for the client with this address. -/
def HasAddress (tables : Tables) (clientID ip : Bytes) : Prop :=
  ∃ row ∈ tables.userValidIP, row.clientID = .text clientID ∧ row.ip = .text ip

/-- The row behind the first query's answer: it belongs to the client ID up to
the first zero byte, and its license type reads so up to its first zero byte. -/
def ReadsLicense (licenseType : Bytes) (tables : Tables) (now : Int) (clientID : Bytes) : Prop :=
  ∃ row ∈ tables.user, row.clientID = .text (cString clientID) ∧
    (∃ license, row.licenseType = .text license ∧ cString license = licenseType) ∧
    row.unexpired now = true

def ReadsGroupLicense : Tables → Int → Bytes → Prop := ReadsLicense groupLicense

theorem readText_eq {licenseType : Bytes} (nonempty : licenseType ≠ []) {value : SqlValue} :
    (readText value).getD [] = licenseType ↔
      ∃ license, value = .text license ∧ cString license = licenseType := by
  cases value <;> simp [readText, nonempty.symm]

/-- The key of `User` leaves at most one row to select. -/
theorem selected_unique (tables : Tables) (now : Int) (clientID : Bytes) {row : UserRow}
    (member : row ∈ tables.user) (owner : row.clientID = .text clientID)
    (valid : row.unexpired now = true) :
    Query.licenseType.rows tables now (.text clientID) = [row.licenseType] := by
  have key := tables.user_key
  simp only [Query.rows]
  generalize tables.user = rows at member key
  induction rows with
  | nil => simp at member
  | cons head rest inductionHypothesis =>
      obtain ⟨headKey, restKey⟩ := List.pairwise_cons.mp key
      by_cases isHead : head.clientID = .text clientID
      · have others : rest.filter (fun other =>
            sqlEq other.clientID (.text clientID) && other.unexpired now) = [] := by
          apply List.filter_eq_nil_iff.mpr
          intro other inRest selected
          simp only [Bool.and_eq_true, sqlEq_text] at selected
          rcases headKey other inRest with null | different
          · rw [isHead] at null
            cases null
          · exact different (isHead.trans selected.1.symm)
        rcases List.mem_cons.mp member with same | inRest
        · subst same
          rw [List.filter_cons_of_pos (by simp [sqlEq_text, owner, valid]), others]
          rfl
        · have selected : row ∈ rest.filter (fun other =>
              sqlEq other.clientID (.text clientID) && other.unexpired now) := by
            simp [inRest, sqlEq_text, owner, valid]
          rw [others] at selected
          cases selected
      · have skipped : ¬ (sqlEq head.clientID (.text clientID) && head.unexpired now) = true := by
          simp [sqlEq_text, isHead]
        rw [List.filter_cons, if_neg skipped]
        rcases List.mem_cons.mp member with same | inRest
        · exact absurd (same ▸ owner) isHead
        · exact inductionHypothesis inRest restKey

theorem foundLicense_eq {licenseType : Bytes} (nonempty : licenseType ≠ []) (tables : Tables)
    (now : Int) (clientID : Bytes) :
    foundLicense tables now clientID = licenseType ↔
      ReadsLicense licenseType tables now clientID := by
  constructor
  · intro found
    unfold foundLicense at found
    cases selected : Query.licenseType.rows tables now (.text (cString clientID)) with
    | nil => simp [selected, nonempty.symm] at found
    | cons value rest =>
        have member : value ∈ Query.licenseType.rows tables now (.text (cString clientID)) := by
          simp [selected]
        simp only [Query.rows, List.mem_map, List.mem_filter, Bool.and_eq_true, sqlEq_text] at member
        rcases member with ⟨row, ⟨inTable, owner, valid⟩, rfl⟩
        rw [selected] at found
        exact ⟨row, inTable, owner, (readText_eq nonempty).mp found, valid⟩
  · intro found
    rcases found with ⟨row, member, owner, reads, valid⟩
    unfold foundLicense
    rw [selected_unique tables now (cString clientID) member owner valid]
    exact (readText_eq nonempty).mpr reads

/-- When the license type that is read decides as the tables call for: it comes
with the address (`addressed`), it is the client's own (`own`), and the client's
own is not overlooked (`found`). -/
structure Covered (tables : Tables) (now : Int) (req : LoginRequest) : Prop where
  addressed : ReadsGroupLicense tables now req.clientID → HasAddress tables req.clientID req.ip
  own : ReadsGroupLicense tables now req.clientID → HasGroupLicense tables now req.clientID
  found : HasGroupLicense tables now req.clientID → HasAddress tables req.clientID req.ip →
    ReadsGroupLicense tables now req.clientID

/-- Without zero bytes in the client ID and the license types, only an unlisted
address under a valid Group license is decided wrongly. -/
theorem covered_iff_of_clean {tables : Tables} {now : Int} {req : LoginRequest}
    (cleanID : (0 : UInt8) ∉ req.clientID)
    (cleanTypes : ∀ row ∈ tables.user, ∀ license, row.licenseType = .text license →
      (0 : UInt8) ∉ license) :
    Covered tables now req ↔
      (HasGroupLicense tables now req.clientID → HasAddress tables req.clientID req.ip) := by
  have same : ReadsGroupLicense tables now req.clientID ↔
      HasGroupLicense tables now req.clientID := by
    unfold ReadsGroupLicense ReadsLicense HasGroupLicense
    rw [cString_of_no_zero cleanID]
    have group : cString groupLicense = groupLicense := by decide
    constructor
    · intro found
      rcases found with ⟨row, member, owner, ⟨license, isText, reads⟩, valid⟩
      rw [cString_of_no_zero (cleanTypes row member license isText)] at reads
      exact ⟨row, member, owner, by rw [isText, reads], valid⟩
    · intro found
      rcases found with ⟨row, member, owner, isGroup, valid⟩
      exact ⟨row, member, owner, ⟨groupLicense, isGroup, group⟩, valid⟩
  constructor
  · intro covered license
    exact covered.addressed (same.mpr license)
  · intro addressed
    exact ⟨fun reads => addressed (same.mp reads), same.mp, fun license _ => same.mpr license⟩

/-- The call ends, and where it returns a decision, that is the one the tables
call for exactly in the covered cases. -/
theorem checkLoginRequest_exact_iff {tables : Tables} {now : Int} {wrapper : Csqliter Nat}
    {world : TableWorld} (opened : Database.Opened tables now wrapper world) {rounds : Nat}
    (enough : tables.userValidIP.length < rounds) (req : LoginRequest) :
    ∃ answer rest, checkLoginRequest tableSqlite rounds req wrapper world = some (answer, rest) ∧
      ∀ isValid, answer = .ok isValid →
        ((isValid = true ↔
            HasGroupLicense tables now req.clientID ∧ HasAddress tables req.clientID req.ip) ↔
          Covered tables now req) := by
  obtain ⟨rest, value⟩ := checkLoginRequest_value opened enough req
  refine ⟨_, rest, value, fun isValid answered => ?_⟩
  have decided : isValid = true ↔ ReadsGroupLicense tables now req.clientID := by
    rw [ReadsGroupLicense, ← foundLicense_eq (show groupLicense ≠ [] by decide)]
    unfold verdict at answered
    split_ifs at answered with group individual
    · obtain rfl : true = isValid := Except.ok.inj answered
      simp [group]
    · obtain rfl : false = isValid := Except.ok.inj answered
      simp [group]
  rw [decided]
  constructor
  · intro exact
    exact ⟨fun reads => (exact.mp reads).2, fun reads => (exact.mp reads).1,
      fun license address => exact.mpr ⟨license, address⟩⟩
  · intro covered
    exact ⟨fun reads => ⟨covered.own reads, covered.addressed reads⟩,
      fun both => covered.found both.1 both.2⟩

/-! ### The test client -/

/-- The rows of the test data, with an expiry in 2033. -/
def testTables : Tables where
  user := [⟨.text (ascii "TESTING_CLIENT"), .text groupLicense,
    some ⟨false, ascii "2000000000", by decide, by decide +kernel⟩⟩]
  userValidIP := [⟨.text (ascii "TESTING_CLIENT"), .text (ascii "127.0.0.1")⟩]
  user_key := by simp

def testWorld : TableWorld := ⟨testTables, 1500000000, fun _ => none, 0⟩

theorem testWorld_opened :
    Database.Opened testTables 1500000000 (Database.initial true false) testWorld :=
  ⟨rfl, rfl, rfl, rfl⟩

theorem testClient_licensed :
    HasGroupLicense testTables 1500000000 (ascii "TESTING_CLIENT") :=
  ⟨_, List.mem_singleton.mpr rfl, rfl, rfl, by decide⟩

/-- The exactness theorem at the test client's own address, where it applies. -/
theorem checkLoginRequest_exact_at_listed_address :
    ∃ answer rest, checkLoginRequest tableSqlite 2
        ⟨ascii "id", ascii "TESTING_CLIENT", ascii "127.0.0.1"⟩
        (Database.initial true false) testWorld = some (answer, rest) ∧
      ∀ isValid, answer = .ok isValid →
        ((isValid = true ↔
            HasGroupLicense testTables 1500000000 (ascii "TESTING_CLIENT") ∧
              HasAddress testTables (ascii "TESTING_CLIENT") (ascii "127.0.0.1")) ↔
          Covered testTables 1500000000
            ⟨ascii "id", ascii "TESTING_CLIENT", ascii "127.0.0.1"⟩) :=
  checkLoginRequest_exact_iff testWorld_opened (by decide)
    ⟨ascii "id", ascii "TESTING_CLIENT", ascii "127.0.0.1"⟩

/-- The unexpired test client is let in from an address that is not in its
list. -/
theorem unlisted_address_accepted :
    (∃ rest, checkLoginRequest tableSqlite 2 ⟨ascii "id", ascii "TESTING_CLIENT", ascii "10.0.0.1"⟩
        (Database.initial true false) testWorld = some (.ok true, rest)) ∧
      HasGroupLicense testTables 1500000000 (ascii "TESTING_CLIENT") ∧
      ¬ HasAddress testTables (ascii "TESTING_CLIENT") (ascii "10.0.0.1") := by
  refine ⟨?_, testClient_licensed, ?_⟩
  · obtain ⟨rest, value⟩ := checkLoginRequest_value testWorld_opened
      (show testTables.userValidIP.length < 2 by decide)
      ⟨ascii "id", ascii "TESTING_CLIENT", ascii "10.0.0.1"⟩
    exact ⟨rest, value⟩
  · rintro ⟨row, member, _, address⟩
    obtain rfl := List.mem_singleton.mp member
    exact absurd address (by decide)

end Authorization

end LicensingServer
