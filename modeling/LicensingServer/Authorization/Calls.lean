import LicensingServer.Authorization.Decision

/-!
Owns a series of calls of `checkLoginRequest` on one object, while the tables
and the time change between them: each answers as if it were the first.

Does not own who calls it.
-/

set_option autoImplicit false

namespace LicensingServer

open LicensingServer.Foundations

namespace Database

variable {wrapper : Csqliter Nat} {world : TableWorld} {tables : Tables} {now : Int}

theorem Opened.readValidIPs (opened : Opened tables now wrapper world) {rounds : Nat}
    {ips : List Bytes} {wrapper' : Csqliter Nat} {world' : TableWorld}
    (read : Database.readValidIPs tableSqlite rounds wrapper world = some (ips, wrapper', world')) :
    Opened tables now wrapper' world' := by
  induction rounds generalizing wrapper world ips with
  | zero => cases read
  | succ rounds inductionHypothesis =>
      have stepped := opened.runstep
      unfold Database.readValidIPs at read
      generalize Csqliter.runstep tableSqlite wrapper world = answer at stepped read
      rcases answer with ⟨result, nextWrapper, nextWorld⟩
      cases result with
      | rowresultdb =>
          obtain ⟨⟨more, last⟩, later, same⟩ := Option.map_eq_some_iff.mp read
          obtain ⟨-, rfl⟩ := Prod.mk.inj same
          exact inductionHypothesis stepped later
      | _ =>
          obtain ⟨-, same⟩ := Prod.mk.inj (Option.some.inj read)
          obtain ⟨rfl, rfl⟩ := Prod.mk.inj same
          exact stepped

theorem Opened.getUserValidIPs (opened : Opened tables now wrapper world) {rounds : Nat}
    {clientID : Bytes} {ips : List Bytes} {wrapper' : Csqliter Nat} {world' : TableWorld}
    (read : Database.getUserValidIPs tableSqlite rounds clientID wrapper world =
      some (ips, wrapper', world')) : Opened tables now wrapper' world' :=
  (opened.query validIPSql clientID).readValidIPs read

end Database

namespace Authorization

variable {tables : Tables} {now : Int}

/-- A call leaves the object open. -/
theorem opened_checkLoginRequest {wrapper wrapper' : Csqliter Nat} {world world' : TableWorld}
    (opened : Database.Opened tables now wrapper world) {rounds : Nat} {req : LoginRequest}
    {answer : Except Exception Bool}
    (called : checkLoginRequest tableSqlite rounds req wrapper world =
      some (answer, wrapper', world')) : Database.Opened tables now wrapper' world' := by
  have asked := opened.getUserLicenseType req.clientID
  unfold checkLoginRequest at called
  generalize Database.getUserLicenseType tableSqlite req.clientID wrapper world = found
    at asked called
  rcases found with ⟨licenseType, nextWrapper, nextWorld⟩
  simp only [ite_self] at called
  split_ifs at called
  · obtain ⟨⟨ips, last⟩, read, same⟩ := Option.map_eq_some_iff.mp called
    obtain ⟨-, rfl⟩ := Prod.mk.inj same
    exact asked.getUserValidIPs read
  · obtain ⟨-, same⟩ := Prod.mk.inj (Option.some.inj called)
    obtain ⟨rfl, rfl⟩ := Prod.mk.inj same
    exact asked
  · obtain ⟨-, same⟩ := Prod.mk.inj (Option.some.inj called)
    obtain ⟨rfl, rfl⟩ := Prod.mk.inj same
    exact asked

/-- What the database holds during a call, and when it is made. -/
structure Moment where
  tables : Tables
  now : Int

/-- `auth.checkLoginRequest(req)` at a moment. -/
def call (moment : Moment) (req : LoginRequest) (wrapper : Csqliter Nat) (world : TableWorld) :
    Option (Except Exception Bool × Csqliter Nat × TableWorld) :=
  checkLoginRequest tableSqlite (moment.tables.userValidIP.length + 1) req wrapper
    { world with tables := moment.tables, now := moment.now }

/-- What the call for `req` returns after calls for the `earlier` requests. -/
def callAfter (moments : Nat → Moment) (req : LoginRequest) :
    List LoginRequest → Nat → Csqliter Nat → TableWorld → Option (Except Exception Bool)
  | [], number, wrapper, world => (call (moments number) req wrapper world).map Prod.fst
  | first :: rest, number, wrapper, world =>
      (call (moments number) first wrapper world).bind fun (_, wrapper, world) =>
        callAfter moments req rest (number + 1) wrapper world

/-- What the tables call for at a moment, the address list aside. -/
def answer (moment : Moment) (req : LoginRequest) : Except Exception Bool :=
  verdict (foundLicense moment.tables moment.now req.clientID)

theorem call_value (moment : Moment) (req : LoginRequest) {wrapper : Csqliter Nat}
    (world : TableWorld) (options : wrapper.options = .initial) (db : wrapper.db = true) :
    ∃ wrapper' world', call moment req wrapper world = some (answer moment req, wrapper', world') ∧
      wrapper'.options = .initial ∧ wrapper'.db = true := by
  have opened : Database.Opened moment.tables moment.now wrapper
      { world with tables := moment.tables, now := moment.now } := ⟨options, db, rfl, rfl⟩
  obtain ⟨⟨wrapper', world'⟩, value⟩ := checkLoginRequest_value opened (Nat.lt_succ_self _) req
  have stillOpen := opened_checkLoginRequest opened value
  exact ⟨wrapper', world', value, stillOpen.options, stillOpen.db⟩

/-- No call depends on the ones before it. -/
theorem callAfter_eq (moments : Nat → Moment) (req : LoginRequest) (earlier : List LoginRequest)
    (number : Nat) {wrapper : Csqliter Nat} (world : TableWorld)
    (options : wrapper.options = .initial) (db : wrapper.db = true) :
    callAfter moments req earlier number wrapper world =
      some (answer (moments (number + earlier.length)) req) := by
  induction earlier generalizing number wrapper world with
  | nil =>
      obtain ⟨wrapper', world', value, -, -⟩ := call_value (moments number) req world options db
      rw [callAfter, value]
      rfl
  | cons first rest inductionHypothesis =>
      obtain ⟨wrapper', world', value, options', db'⟩ :=
        call_value (moments number) first world options db
      have turn : number + 1 + rest.length = number + (first :: rest).length := by
        rw [List.length_cons]
        omega
      simp only [callAfter, value, Option.bind_some]
      rw [inductionHypothesis (number + 1) world' options' db', turn]

/-- A call throws exactly where the selected license is an individual one. -/
theorem answer_throws_iff (moment : Moment) (req : LoginRequest) :
    (∃ what, answer moment req = .error what) ↔
      ReadsLicense individualLicense moment.tables moment.now req.clientID := by
  rw [← foundLicense_eq (show individualLicense ≠ [] by decide), answer, verdict]
  constructor
  · rintro ⟨what, thrown⟩
    split_ifs at thrown with group individual
    exact individual
  · intro individual
    rw [individual, if_neg (by decide), if_pos rfl]
    exact ⟨_, rfl⟩

end Authorization

end LicensingServer
