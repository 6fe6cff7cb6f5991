import LicensingServer.Authorization.Decision
import LicensingServer.Database.ScriptedLookups

/-!
Owns `checkLoginRequest` under every outcome of the SQLite calls: exactly when a
request is accepted only on what was read, and exactly when no statement that
found a row is left behind.

Does not own what the tables hold.
-/

set_option autoImplicit false

namespace LicensingServer

open LicensingServer.Foundations

namespace Answers

/-- A step without a text ends the reading. -/
def Ends (answers : Answers) : Prop := answers.Compiles → ∃ count, answers.text count = none

/-- The reading comes to a row with this value. -/
def Finds (answers : Answers) (value : SqlValue) : Prop :=
  answers.Compiles ∧ ∃ position, answers.step position = .row [value] ∧
    ∀ earlier < position, (answers.text earlier).isSome

/-- No row is found, or all are read up to the end. -/
def RunsOut (answers : Answers) : Prop :=
  answers.Compiles → (∀ columns, answers.step 0 ≠ .row columns) ∨
    ∃ count, answers.step count = .done ∧ ∀ earlier < count, (answers.text earlier).isSome

end Answers

namespace Authorization

open Database

variable {wrapper : Csqliter Nat} {world : ScriptWorld}

/-- What the next two statements on this wrapper are answered. -/
def licenseAnswers (world : ScriptWorld) : Answers := world.answers world.prepared
def addressAnswers (world : ScriptWorld) : Answers := world.answers (world.prepared + 1)

/-- The license query delivers a row that reads `Group`. -/
def ReadsGroup (wrapper : Csqliter Nat) (world : ScriptWorld) : Prop :=
  CompilesNext wrapper world ∧ (licenseAnswers world).text 0 = some groupLicense

/-- What a call is made of that finds a license of type `Group`: the two lookups
one after the other. -/
structure Consults (wrapper : Csqliter Nat) (world : ScriptWorld) (req : LoginRequest)
    (middle : Csqliter Nat) (between : ScriptWorld) : Prop where
  licensed : getUserLicenseType scriptSqlite req.clientID wrapper world =
    (groupLicense, middle, between)
  stepped : Stepped wrapper world licenseTypeSql req.clientID 0 middle between
  tidy : Tidy middle between
  opened : middle.db = true
  answers : between.answers = world.answers
  prepared : between.prepared = world.prepared + 1

theorem Consults.compilesNext_iff {req : LoginRequest} {middle : Csqliter Nat}
    {between : ScriptWorld} (consults : Consults wrapper world req middle between) :
    CompilesNext middle between ↔ (addressAnswers world).Compiles := by
  unfold CompilesNext addressAnswers
  rw [consults.opened, consults.answers, consults.prepared]
  simp

theorem Consults.addressAnswers_eq {req : LoginRequest} {middle : Csqliter Nat}
    {between : ScriptWorld} (consults : Consults wrapper world req middle between) :
    between.answers between.prepared = addressAnswers world := by
  rw [consults.answers, consults.prepared]
  rfl

theorem exists_consults (tidy : Tidy wrapper world) (req : LoginRequest)
    (group : ReadsGroup wrapper world) :
    ∃ middle between, Consults wrapper world req middle between := by
  rcases tidy.getUserLicenseType_script req.clientID with
    ⟨value, middle, between, ran, ⟨-, read, answers, opened, stepped⟩ | ⟨fails, -, -⟩⟩
  · have isGroup : value = groupLicense := by
      rw [read, show (world.answers world.prepared).text 0 = some groupLicense from group.2]
      rfl
    subst isGroup
    have kept := tidy.getUserLicenseType req.clientID
    rw [ran] at kept
    rcases stepped.segment with ⟨-, -, -, prepared, -⟩
    exact ⟨middle, between, ran, stepped, kept, opened (by decide), answers, prepared⟩
  · exact absurd group.1 fails

/-- A call is the license lookup, followed by the address lookup where the
license reads `Group`. -/
theorem checkLoginRequest_of_consults {req : LoginRequest} {middle : Csqliter Nat}
    {between : ScriptWorld} (consults : Consults wrapper world req middle between) (rounds : Nat) :
    checkLoginRequest scriptSqlite rounds req wrapper world =
      (getUserValidIPs scriptSqlite rounds req.clientID middle between).map fun (_, rest) =>
        (.ok true, rest) := by
  unfold checkLoginRequest
  rw [consults.licensed]
  simp only [ite_self]
  rfl

/-- Without such a row the request is not accepted, and no address is asked for. -/
theorem checkLoginRequest_of_not_group (tidy : Tidy wrapper world) {req : LoginRequest}
    {rounds : Nat} {answer : Except Exception Bool} {after : Csqliter Nat} {last : ScriptWorld}
    (none : ¬ ReadsGroup wrapper world)
    (called : checkLoginRequest scriptSqlite rounds req wrapper world =
      some (answer, after, last)) :
    answer ≠ .ok true ∧
      ((CompilesNext wrapper world ∧
          Stepped wrapper world licenseTypeSql req.clientID 0 after last) ∨
        (¬ CompilesNext wrapper world ∧ Skipped wrapper world licenseTypeSql after last)) := by
  rcases tidy.getUserLicenseType_script req.clientID with ⟨value, middle, between, ran, outcome⟩
  have notGroup : value ≠ groupLicense := by
    intro isGroup
    rcases outcome with ⟨compiles, read, -⟩ | ⟨-, empty, -⟩
    · apply none
      refine ⟨compiles, ?_⟩
      unfold licenseAnswers
      cases found : (world.answers world.prepared).text 0 with
      | none =>
          rw [read, found] at isGroup
          exact absurd isGroup (by decide)
      | some text =>
          rw [read, found] at isGroup
          exact congrArg some isGroup
    · rw [empty] at isGroup
      exact absurd isGroup (by decide)
  unfold checkLoginRequest at called
  rw [ran] at called
  simp only [notGroup, if_false] at called
  have answered : answer ≠ .ok true ∧ middle = after ∧ between = last := by
    split_ifs at called
    · cases called
      exact ⟨by simp, rfl, rfl⟩
    · cases called
      exact ⟨by simp, rfl, rfl⟩
  rcases answered with ⟨refused, rfl, rfl⟩
  refine ⟨refused, ?_⟩
  rcases outcome with ⟨compiles, -, -, -, stepped⟩ | ⟨fails, -, skipped⟩
  · exact .inl ⟨compiles, stepped⟩
  · exact .inr ⟨fails, skipped⟩

/-- What the address lookup reads and leaves, after a license of type `Group`. -/
theorem Consults.addresses {req : LoginRequest} {middle : Csqliter Nat} {between : ScriptWorld}
    (consults : Consults wrapper world req middle between) {rounds : Nat} {ips : List Bytes}
    {after : Csqliter Nat} {last : ScriptWorld}
    (read : getUserValidIPs scriptSqlite rounds req.clientID middle between =
      some (ips, after, last)) :
    ((addressAnswers world).Compiles ∧ ∃ count,
        (∀ position < count, ((addressAnswers world).text position).isSome) ∧
        (addressAnswers world).text count = none ∧
        Stepped middle between validIPSql req.clientID count after last) ∨
      (¬ (addressAnswers world).Compiles ∧ Skipped middle between validIPSql after last) := by
  have outcome := consults.tidy.getUserValidIPs_script read
  rw [consults.compilesNext_iff, consults.addressAnswers_eq] at outcome
  exact outcome

/-! ### Failing closed -/

/-- The calls that were made in between. -/
def newCalls (world last : ScriptWorld) : List Call := last.calls.drop world.calls.length

/-- Wherever the request is accepted, the license query has delivered a row of
type `Group` and the address query a row with the address of the request. -/
def FailsClosed (req : LoginRequest) (wrapper : Csqliter Nat) (world : ScriptWorld) : Prop :=
  ∀ rounds after last,
    checkLoginRequest scriptSqlite rounds req wrapper world = some (.ok true, after, last) →
      Delivered (newCalls world last) licenseTypeSql (.text groupLicense) ∧
        Delivered (newCalls world last) validIPSql (.text req.ip)

/-- Reading a text comes to every row before the first step without one. -/
theorem finds_iff {answers : Answers} (compiles : answers.Compiles) {count : Nat}
    (texts : ∀ position < count, (answers.text position).isSome)
    (ends : answers.text count = none) (bytes : Bytes) :
    answers.Finds (.text bytes) ↔
      ∃ position ≤ count, answers.step position = .row [.text bytes] := by
  constructor
  · intro finds
    rcases finds.2 with ⟨position, found, readable⟩
    refine ⟨position, ?_, found⟩
    by_contra beyond
    have some := readable count (by omega)
    rw [ends] at some
    cases some
  · intro found
    rcases found with ⟨position, within, found⟩
    refine ⟨compiles, position, found, ?_⟩
    intro earlier before
    exact texts earlier (by omega)

/-- What the log of an accepting call delivers. -/
theorem Consults.delivered_iff {req : LoginRequest} {middle : Csqliter Nat} {between : ScriptWorld}
    (consults : Consults wrapper world req middle between) {rounds : Nat} {ips : List Bytes}
    {after : Csqliter Nat} {last : ScriptWorld}
    (read : getUserValidIPs scriptSqlite rounds req.clientID middle between =
      some (ips, after, last)) :
    (Delivered (newCalls world last) licenseTypeSql (.text groupLicense) ↔
        (licenseAnswers world).step 0 = .row [.text groupLicense]) ∧
      (Delivered (newCalls world last) validIPSql (.text req.ip) ↔
        (addressAnswers world).Finds (.text req.ip)) := by
  have texts : licenseTypeSql ≠ validIPSql := by decide
  rcases consults.stepped.segment with ⟨licenseCalls, made, belong, -, -, delivered⟩
  have apart : world.prepared ≠ between.prepared := by
    rw [consults.prepared]
    omega
  have license : Delivered licenseCalls licenseTypeSql (.text groupLicense) ↔
      (licenseAnswers world).step 0 = .row [.text groupLicense] := by
    rw [delivered]
    constructor
    · intro found
      rcases found with ⟨position, within, found⟩
      obtain rfl : position = 0 := by omega
      exact found
    · intro found
      exact ⟨0, Nat.le_refl 0, found⟩
  -- the calls of the two statements, told apart by their texts and numbers
  have split (addressCalls : List Call) (later : last.calls = between.calls ++ addressCalls) :
      newCalls world last = licenseCalls ++ addressCalls := by
    rw [newCalls, later, made, List.append_assoc, List.drop_left]
  rcases consults.addresses read with
    ⟨compiles, count, readable, ends, stepped⟩ | ⟨fails, skipped⟩
  · rcases stepped.segment with ⟨addressCalls, later, addressBelong, -, -, addressDelivered⟩
    rw [split addressCalls later]
    constructor
    · rw [delivered_append_left belong addressBelong texts apart, license]
    · rw [delivered_append_comm, delivered_append_left addressBelong belong texts.symm apart.symm,
        addressDelivered, finds_iff compiles readable ends]
      rw [consults.addressAnswers_eq]
  · rcases skipped.segment with ⟨addressCalls, later, addressBelong, addressDelivered⟩
    rw [split addressCalls later]
    constructor
    · rw [delivered_append_left belong addressBelong texts apart, license]
    · rw [delivered_append_comm, delivered_append_left addressBelong belong texts.symm apart.symm]
      constructor
      · intro found
        exact absurd found (addressDelivered _)
      · intro finds
        exact absurd finds.1 fails

/-- A check that fails closed has the rows wherever it can accept. -/
theorem finds_of_failsClosed (tidy : Tidy wrapper world) {req : LoginRequest}
    (closed : FailsClosed req wrapper world) (group : ReadsGroup wrapper world)
    (ends : (addressAnswers world).Ends) :
    (licenseAnswers world).step 0 = .row [.text groupLicense] ∧
      (addressAnswers world).Finds (.text req.ip) := by
  rcases exists_consults tidy req group with ⟨middle, between, consults⟩
  have comesToAnEnd : CompilesNext middle between →
      ∃ count, (between.answers between.prepared).text count = none := by
    rw [consults.compilesNext_iff, consults.addressAnswers_eq]
    exact ends
  rcases consults.tidy.getUserValidIPs_returns req.clientID comesToAnEnd with
    ⟨rounds, ⟨ips, after, last⟩, read⟩
  have accepted : checkLoginRequest scriptSqlite rounds req wrapper world =
      some (.ok true, after, last) := by
    rw [checkLoginRequest_of_consults consults rounds, read]
    rfl
  rcases consults.delivered_iff read with ⟨license, address⟩
  rcases closed rounds after last accepted with ⟨licensed, addressed⟩
  exact ⟨license.mp licensed, address.mp addressed⟩

/-- A check fails closed exactly when a row that reads `Group` is only ever
delivered together with a row for the address, and reads exactly `Group`. -/
theorem failsClosed_iff {state : Csqliter Nat × ScriptWorld}
    (reached : histories.Reachable state) (req : LoginRequest) :
    FailsClosed req state.1 state.2 ↔
      (ReadsGroup state.1 state.2 → (addressAnswers state.2).Ends →
        (licenseAnswers state.2).step 0 = .row [.text groupLicense] ∧
          (addressAnswers state.2).Finds (.text req.ip)) := by
  have tidy := tidy_of_reachable reached
  constructor
  · intro closed group ends
    exact finds_of_failsClosed tidy closed group ends
  · intro covered rounds after last accepted
    by_cases group : ReadsGroup state.1 state.2
    · rcases exists_consults tidy req group with ⟨middle, between, consults⟩
      rw [checkLoginRequest_of_consults consults rounds] at accepted
      rcases Option.map_eq_some_iff.mp accepted with ⟨⟨ips, rest⟩, read, same⟩
      cases same
      have ends : (addressAnswers state.2).Ends := by
        intro compiles
        rcases consults.addresses read with ⟨-, count, -, ends, -⟩ | ⟨fails, -⟩
        · exact ⟨count, ends⟩
        · exact absurd compiles fails
      rcases consults.delivered_iff read with ⟨license, address⟩
      rcases covered group ends with ⟨licensed, addressed⟩
      exact ⟨license.mpr licensed, address.mpr addressed⟩
    · exact absurd rfl (checkLoginRequest_of_not_group tidy group accepted).1

/-- The criterion on a new `Database` whose queries all find a row `Group`. -/
theorem failsClosed_iff_group_rows :
    FailsClosed ⟨ascii "id", ascii "TESTING_CLIENT", ascii "127.0.0.1"⟩ groupRows.1 groupRows.2 ↔
      (ReadsGroup groupRows.1 groupRows.2 → (addressAnswers groupRows.2).Ends →
        (licenseAnswers groupRows.2).step 0 = .row [.text groupLicense] ∧
          (addressAnswers groupRows.2).Finds (.text (ascii "127.0.0.1"))) :=
  failsClosed_iff (.start ⟨true, false, _, rfl⟩) _

/-- A license of type `Group`, and a database that is busy when the addresses are
asked for. -/
def busyAddresses : Csqliter Nat × ScriptWorld :=
  (Database.initial true false,
    ⟨fun stmt => if stmt = 0 then groupRow else { groupRow with prepare := .busy }, []⟩)

theorem busyAddresses_readsGroup : ReadsGroup busyAddresses.1 busyAddresses.2 :=
  ⟨⟨rfl, rfl, by decide, rfl⟩, rfl⟩

/-- The request is accepted although no address was read. -/
theorem accepted_while_busy :
    histories.Reachable busyAddresses ∧
      ¬ FailsClosed ⟨ascii "id", ascii "TESTING_CLIENT", ascii "127.0.0.1"⟩
        busyAddresses.1 busyAddresses.2 := by
  have reached : histories.Reachable busyAddresses := .start ⟨true, false, _, rfl⟩
  have refused : ¬ (addressAnswers busyAddresses.2).Compiles := by
    intro compiles
    cases compiles.1
  refine ⟨reached, ?_⟩
  intro closed
  have finds := finds_of_failsClosed (tidy_of_reachable reached) closed busyAddresses_readsGroup
    (fun compiles => absurd compiles refused)
  exact refused finds.2.1

/-! ### Statements left behind -/

/-- The wrapper holds a statement that has found a row and is not finalized. -/
def HoldsRow (wrapper : Csqliter Nat) (world : ScriptWorld) : Prop :=
  ∃ stmt columns, wrapper.litestmnt = some stmt ∧ .step stmt (.row columns) ∈ world.calls

theorem not_holdsRow_of_idle (idle : wrapper.litestmnt = none) : ¬ HoldsRow wrapper world := by
  intro holds
  rcases holds with ⟨stmt, _, live, -⟩
  rw [idle] at live
  cases live

/-- A stepped lookup leaves its own statement, unless that has run to its end. -/
theorem holdsRow_iff_of_stepped (numbered : Numbered world) {sql clientID : Bytes} {count : Nat}
    {after : Csqliter Nat} {last : ScriptWorld}
    (stepped : Stepped wrapper world sql clientID count after last) :
    HoldsRow after last ↔
      (world.answers world.prepared).step count ≠ .done ∧
        ∃ position ≤ count, ∃ columns,
          (world.answers world.prepared).step position = .row columns := by
  have left := stepped.idle
  rcases stepped.segment with ⟨calls, made, -, -, steps, -⟩
  by_cases done : (world.answers world.prepared).step count = .done
  · rw [if_pos done] at left
    simp only [not_holdsRow_of_idle left, done, ne_eq, not_true_eq_false, false_and]
  · rw [if_neg done] at left
    constructor
    · intro holds
      rcases holds with ⟨stmt, columns, live, member⟩
      obtain rfl : world.prepared = stmt := Option.some.inj (left.symm.trans live)
      refine ⟨done, ?_⟩
      rw [made] at member
      rcases List.mem_append.mp member with old | new
      · have below := numbered _ old world.prepared rfl
        omega
      · rcases (steps _).mp new with ⟨position, within, found⟩
        exact ⟨position, within, columns, found⟩
    · intro found
      rcases found with ⟨-, position, within, columns, found⟩
      refine ⟨world.prepared, columns, left, ?_⟩
      rw [made]
      exact List.mem_append_right _ ((steps _).mpr ⟨position, within, found⟩)

theorem runsOut_iff {answers : Answers} (compiles : answers.Compiles) {count : Nat}
    (texts : ∀ position < count, (answers.text position).isSome)
    (ends : answers.text count = none) :
    answers.RunsOut ↔ ¬ (answers.step count ≠ .done ∧
      ∃ position ≤ count, ∃ columns, answers.step position = .row columns) := by
  constructor
  · intro runsOut held
    rcases held with ⟨notDone, position, within, columns, found⟩
    rcases runsOut compiles with noRow | ⟨final, done, readable⟩
    · -- without a row the first step is the last
      have first : answers.text 0 = none := Answers.text_of_no_row noRow
      have only : count = 0 := by
        by_contra more
        have some := texts 0 (by omega)
        rw [first] at some
        cases some
      obtain rfl : position = 0 := by omega
      exact noRow columns found
    · have same : final = count := by
        have finalEnds : answers.text final = none := Answers.text_of_no_row (by simp [done])
        by_contra apart
        rcases Nat.lt_or_gt_of_ne apart with before | beyond
        · have some := texts final before
          rw [finalEnds] at some
          cases some
        · have some := readable count beyond
          rw [ends] at some
          cases some
      rw [same] at done
      exact notDone done
  · intro free _
    by_cases done : answers.step count = .done
    · exact .inr ⟨count, done, texts⟩
    · left
      intro columns found
      exact free ⟨done, 0, Nat.zero_le count, columns, found⟩

/-- A check leaves no statement behind that has found a row exactly when its
license query finds none, or the license reads `Group` and the address query
runs out. -/
theorem idle_iff {state : Csqliter Nat × ScriptWorld} (reached : histories.Reachable state)
    {req : LoginRequest} {rounds : Nat} {answer : Except Exception Bool} {after : Csqliter Nat}
    {last : ScriptWorld}
    (called : checkLoginRequest scriptSqlite rounds req state.1 state.2 =
      some (answer, after, last)) :
    ¬ HoldsRow after last ↔
      (CompilesNext state.1 state.2 →
        (∀ columns, (licenseAnswers state.2).step 0 ≠ .row columns) ∨
          ((licenseAnswers state.2).text 0 = some groupLicense ∧
            (addressAnswers state.2).RunsOut)) := by
  have tidy := tidy_of_reachable reached
  by_cases group : ReadsGroup state.1 state.2
  · rcases exists_consults tidy req group with ⟨middle, between, consults⟩
    rw [checkLoginRequest_of_consults consults rounds] at called
    rcases Option.map_eq_some_iff.mp called with ⟨⟨ips, rest⟩, read, same⟩
    cases same
    have same := consults.addressAnswers_eq
    have row : ¬ ∀ columns, (licenseAnswers state.2).step 0 ≠ .row columns := by
      intro noRow
      have missing := Answers.text_of_no_row noRow
      rw [group.2] at missing
      cases missing
    have condition : (CompilesNext state.1 state.2 →
        (∀ columns, (licenseAnswers state.2).step 0 ≠ .row columns) ∨
          ((licenseAnswers state.2).text 0 = some groupLicense ∧
            (addressAnswers state.2).RunsOut)) ↔ (addressAnswers state.2).RunsOut := by
      simp only [group.1, group.2, row, true_imp_iff, false_or, true_and]
    rw [condition]
    rcases consults.addresses read with
      ⟨compiles, count, texts, ends, stepped⟩ | ⟨fails, skipped⟩
    · rw [holdsRow_iff_of_stepped consults.tidy.numbered stepped, same,
        runsOut_iff compiles texts ends]
    · constructor
      · intro _ compiles
        exact absurd compiles fails
      · intro _
        exact not_holdsRow_of_idle skipped.idle
  · rcases checkLoginRequest_of_not_group tidy group called with
      ⟨-, ⟨compiles, stepped⟩ | ⟨fails, skipped⟩⟩
    · have notGroup : (licenseAnswers state.2).text 0 ≠ some groupLicense := by
        intro read
        exact group ⟨compiles, read⟩
      have held := holdsRow_iff_of_stepped tidy.numbered stepped
      rw [← licenseAnswers] at held
      simp only [compiles, notGroup, true_imp_iff, false_and, or_false]
      rw [held]
      constructor
      · intro free columns found
        apply free
        exact ⟨by simp [found], 0, Nat.le_refl 0, columns, found⟩
      · intro noRow found
        rcases found with ⟨-, position, within, columns, found⟩
        obtain rfl : position = 0 := by omega
        exact noRow columns found
    · constructor
      · intro _ compiles
        exact absurd compiles fails
      · intro _
        exact not_holdsRow_of_idle skipped.idle

/-- A new `Database` whose queries find a license of type `Individual`. -/
def individualRows : Csqliter Nat × ScriptWorld :=
  (Database.initial true false,
    ⟨fun _ => { groupRow with
      step := fun position => if position = 0 then .row [.text individualLicense] else .done }, []⟩)

/-- The state that a check of such a license leaves. -/
def afterIndividualRow : Csqliter Nat × ScriptWorld :=
  (getUserLicenseType scriptSqlite (ascii "TESTING_CLIENT") individualRows.1 individualRows.2).2

theorem individualRows_checked :
    checkLoginRequest scriptSqlite 1 ⟨ascii "id", ascii "TESTING_CLIENT", ascii "127.0.0.1"⟩
        individualRows.1 individualRows.2 =
      some (.error .exception, afterIndividualRow.1, afterIndividualRow.2) := rfl

/-- The criterion for that check. -/
theorem idle_iff_individual_row :
    ¬ HoldsRow afterIndividualRow.1 afterIndividualRow.2 ↔
      (CompilesNext individualRows.1 individualRows.2 →
        (∀ columns, (licenseAnswers individualRows.2).step 0 ≠ .row columns) ∨
          ((licenseAnswers individualRows.2).text 0 = some groupLicense ∧
            (addressAnswers individualRows.2).RunsOut)) :=
  idle_iff (.start ⟨true, false, _, rfl⟩) individualRows_checked

/-- The check throws, and the statement of its license query stays where it is. -/
theorem individual_license_left_behind :
    histories.Reachable individualRows ∧
      checkLoginRequest scriptSqlite 1 ⟨ascii "id", ascii "TESTING_CLIENT", ascii "127.0.0.1"⟩
          individualRows.1 individualRows.2 =
        some (.error .exception, afterIndividualRow.1, afterIndividualRow.2) ∧
      HoldsRow afterIndividualRow.1 afterIndividualRow.2 := by
  refine ⟨.start ⟨true, false, _, rfl⟩, individualRows_checked, 0, [.text individualLicense],
    rfl, ?_⟩
  decide +kernel

end Authorization

end LicensingServer
