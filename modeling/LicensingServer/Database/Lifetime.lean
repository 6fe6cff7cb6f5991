import LicensingServer.Database.Lifecycle
import LicensingServer.Database.Script

/-!
Owns the use that `Database` makes of a `csqliter`: its constructor opens the
file, its lookups run, its destructor closes, and what is left then.

Does not own what the lookups return.
-/

set_option autoImplicit false

namespace LicensingServer

open LicensingServer.Foundations

namespace Csqliter

/-! ### Lookups on an open file -/

/-- An object that every lookup finds: sound, and with no pointer that dangles. -/
structure Usable (connection : Option Nat) (object : Csqliter Nat) (ledger : Ledger) : Prop where
  db : object.db = connection.isSome
  registered : ledger.Registered connection
  sound : ledger.Sound connection object.litestmnt
  attached : ¬ ledger.Dangling object.litestmnt

variable {connection : Option Nat}

theorem Usable.after {self after : Csqliter Nat} {ledger last : Ledger} {careful : Prop}
    (usable : Usable connection self ledger)
    (effect : Effect connection self ledger after last careful) (met : careful) :
    Usable connection after last where
  db := effect.db.trans usable.db
  registered := effect.registered
  sound := effect.sound_iff.mpr ⟨usable.sound, met⟩
  attached := effect.attached usable.attached

/-- What a lookup has prepared can be stepped. -/
theorem Usable.query {self : Csqliter Nat} {ledger : Ledger}
    (usable : Usable connection self ledger) {sql : Bytes} (notBlank : sql ≠ [])
    (clientID : Bytes) :
    Usable connection (Database.query (Ledger.sqlite connection) sql clientID self ledger).1
        (Database.query (Ledger.sqlite connection) sql clientID self ledger).2 ∧
      StepSafe (Database.query (Ledger.sqlite connection) sql clientID self ledger).1
        (Database.query (Ledger.sqlite connection) sql clientID self ledger).2 := by
  have finalized := usable.after (finalizestatement_effect usable.registered self)
    fun _ => usable.attached
  have idle : self.db = true →
      (finalizestatement (Ledger.sqlite connection) self ledger).1.litestmnt = none := by
    intro opened
    cases live : self.litestmnt with
    | none =>
        rw [finalizestatement_of_none _ live]
        exact live
    | some stmt => rw [finalizestatement_of_live _ opened live]
  have same : (finalizestatement (Ledger.sqlite connection) self ledger).1.db = self.db :=
    finalized.db.trans usable.db.symm
  refine ⟨⟨finalized.db, finalized.registered, finalized.sound, finalized.attached⟩, ?_⟩
  intro opened
  have isOpen : self.db = true := same.symm.trans opened
  rw [if_pos ⟨rfl, notBlank⟩]
  change ¬ Ledger.Live _ (finalizestatement (Ledger.sqlite connection) self ledger).1.litestmnt
  rw [idle isOpen]
  exact Ledger.live_none _

theorem Usable.runstep {self : Csqliter Nat} {ledger : Ledger}
    (usable : Usable connection self ledger) (safe : StepSafe self ledger) :
    Usable connection (runstep (Ledger.sqlite connection) self ledger).2.1
      (runstep (Ledger.sqlite connection) self ledger).2.2 :=
  usable.after (runstep_effect usable.registered usable.db) safe

theorem Usable.getUserLicenseType {self : Csqliter Nat} {ledger : Ledger}
    (usable : Usable connection self ledger) (clientID : Bytes) :
    Usable connection
      (Database.getUserLicenseType (Ledger.sqlite connection) clientID self ledger).2.1
      (Database.getUserLicenseType (Ledger.sqlite connection) clientID self ledger).2.2 := by
  have asked := usable.query (by decide : licenseTypeSql ≠ []) clientID
  have stepped := asked.1.runstep asked.2
  unfold Database.getUserLicenseType
  simp only
  split
  · next answer =>
      rw [answer] at stepped
      exact stepped
  · next answer =>
      rw [answer] at stepped
      exact stepped

theorem Usable.readValidIPs {rounds : Nat} {self after : Csqliter Nat} {ledger last : Ledger}
    {ips : List Bytes} (usable : Usable connection self ledger) (safe : StepSafe self ledger)
    (read : Database.readValidIPs (Ledger.sqlite connection) rounds self ledger =
      some (ips, after, last)) :
    Usable connection after last := by
  induction rounds generalizing self ledger ips with
  | zero => cases read
  | succ rounds inductionHypothesis =>
      have stepped := usable.runstep safe
      unfold Database.readValidIPs at read
      split at read
      · next row =>
          rw [row] at stepped
          obtain ⟨⟨rest, tail⟩, more, same⟩ := Option.map_eq_some_iff.mp read
          have clean := runstep_row row
          obtain ⟨-, rfl⟩ := Prod.mk.inj same
          exact inductionHypothesis stepped (stepSafe_of_clean clean.1 clean.2) more
      · next answer =>
          rw [answer] at stepped
          obtain ⟨-, rfl, rfl⟩ := by simpa using read
          exact stepped

/-! ### Lookups without a file -/

/-- Nothing is called, and there is never a row. -/
theorem runstep_of_closed {World : Type} (api : Sqlite World Nat) {self : Csqliter Nat}
    (closed : self.db = false) (idle : self.litestmnt = none) (world : World) :
    ∃ result after, runstep api self world = (result, after, world) ∧
      result ≠ .rowresultdb ∧ after.litestmnt = none := by
  have unopened : ∀ other : Csqliter Nat, other.db = false →
      stepstatement api other world = (.otherdberror, other, world) := by
    intro other closed
    simp [stepstatement, closed]
  unfold runstep
  split_ifs
  · refine ⟨.otherdberror, { self with valsin := [], valtypesout := [] }, ?_, by simp, idle⟩
    simp [compilestatement, compilesql, finalizestatement, closed]
  · refine ⟨.otherdberror, self, ?_, by simp, idle⟩
    rw [runcompiled, unopened self closed]

theorem query_of_closed {World : Type} (api : Sqlite World Nat) {self : Csqliter Nat}
    (closed : self.db = false) (idle : self.litestmnt = none) (sql clientID : Bytes)
    (world : World) :
    ∃ asked, Database.query api sql clientID self world = (asked, world) ∧
      asked.db = false ∧ asked.litestmnt = none := by
  unfold Database.query setsql
  rw [finalizestatement_of_none api idle]
  exact ⟨_, rfl, closed, idle⟩

end Csqliter

/-! ### The whole life of a `Database` -/

namespace Database

/-- A lookup, which is nothing if its rows do not end within its rounds. -/
def lookup (wrapper : Wrapper) : Lookup → Option Wrapper
  | .userLicenseType clientID =>
      let (_, members, ledger) :=
        getUserLicenseType (Ledger.sqlite wrapper.connection) clientID wrapper.self wrapper.ledger
      some { wrapper with members, ledger }
  | .userValidIPs clientID rounds =>
      (getUserValidIPs (Ledger.sqlite wrapper.connection) rounds clientID wrapper.self
        wrapper.ledger).map fun (_, members, ledger) => { wrapper with members, ledger }

/-- From the constructor on, with the dirty flag as it was allocated. -/
def lifetime : TransitionSystem Wrapper Lookup where
  initial wrapper :=
    ∃ dirty replies, wrapper = (Wrapper.constructed dirty replies).openexistingdb.2
  step := lookup

def Usable (wrapper : Wrapper) : Prop :=
  Csqliter.Usable wrapper.connection wrapper.self wrapper.ledger

theorem usable_lookup {wrapper next : Wrapper} {asked : Lookup} (usable : Usable wrapper)
    (answered : lookup wrapper asked = some next) : Usable next := by
  cases asked with
  | userLicenseType clientID =>
      have after := Csqliter.Usable.getUserLicenseType usable clientID
      obtain rfl := Option.some.inj answered
      exact ⟨rfl, after.registered, after.sound, after.attached⟩
  | userValidIPs clientID rounds =>
      obtain ⟨⟨ips, members, ledger⟩, read, rfl⟩ := Option.map_eq_some_iff.mp answered
      have prepared := Csqliter.Usable.query usable (by decide : validIPSql ≠ []) clientID
      have after := prepared.1.readValidIPs prepared.2 read
      exact ⟨rfl, after.registered, after.sound, after.attached⟩

/-- An object without a file, and a ledger that stays as it is. -/
structure Shut (ledger : Ledger) (wrapper : Wrapper) : Prop where
  closed : wrapper.connection = none
  idle : wrapper.members.litestmnt = none
  same : wrapper.ledger = ledger

theorem shut_lookup {ledger : Ledger} {wrapper next : Wrapper} {asked : Lookup}
    (shut : Shut ledger wrapper) (answered : lookup wrapper asked = some next) :
    Shut ledger next := by
  have closed : wrapper.self.db = false := by
    simp [Wrapper.self, shut.closed]
  have query := Csqliter.query_of_closed (Ledger.sqlite wrapper.connection) closed shut.idle
  have step := @Csqliter.runstep_of_closed _ (Ledger.sqlite wrapper.connection)
  cases asked with
  | userLicenseType clientID =>
      obtain ⟨members, isQuery, noFile, noStatement⟩ :=
        query licenseTypeSql clientID wrapper.ledger
      obtain ⟨result, after, stepped, notRow, idle⟩ := step noFile noStatement wrapper.ledger
      simp only [lookup, getUserLicenseType, isQuery, stepped] at answered
      obtain rfl := Option.some.inj answered
      exact ⟨shut.closed, idle, shut.same⟩
  | userValidIPs clientID rounds =>
      obtain ⟨members, isQuery, noFile, noStatement⟩ := query validIPSql clientID wrapper.ledger
      obtain ⟨result, after, stepped, notRow, idle⟩ := step noFile noStatement wrapper.ledger
      obtain ⟨⟨ips, last, ledgerAfter⟩, read, rfl⟩ := Option.map_eq_some_iff.mp answered
      rw [getUserValidIPs, isQuery] at read
      cases rounds with
      | zero => cases read
      | succ rounds =>
          simp only [readValidIPs, stepped] at read
          obtain ⟨-, same⟩ := Prod.mk.inj (Option.some.inj read)
          obtain ⟨rfl, rfl⟩ := Prod.mk.inj same
          exact ⟨shut.closed, idle, shut.same⟩

/-- When a `Database` is destroyed nothing was used after its end and no statement
is left, whatever its lookups were and SQLite answered; and no connection, unless
its file could not be opened and SQLite had made a connection all the same. -/
theorem left_by_destructor {dirty : Bool} {replies : Nat → Reply} {lookups : List Lookup}
    {last : Wrapper}
    (ran : lifetime.run (Wrapper.constructed dirty replies).openexistingdb.2 lookups =
      some last) :
    last.closedb.2.ledger.misused = false ∧ last.closedb.2.ledger.statements = [] ∧
      last.closedb.2.ledger.connections =
        if (replies 0).opened = .failed then [0] else [] := by
  have registered := Wrapper.registered_constructed dirty replies
  by_cases failed : (replies 0).opened = .failed
  · rw [if_pos failed]
    have shut : Shut ⟨replies, 1, [0], [], false⟩
        (Wrapper.constructed dirty replies).openexistingdb.2 := by
      have answer : (Wrapper.constructed dirty replies).ledger.reply.opened = .failed := failed
      have opened : (Wrapper.constructed dirty replies).openexistingdb.2 =
          { Wrapper.constructed dirty replies with
            connection := none, ledger := ⟨replies, 1, [0], [], false⟩ } := by
        simp only [Wrapper.openexistingdb, Wrapper.openorcreate, Ledger.openV2, answer]
        rfl
      rw [opened]
      exact ⟨rfl, rfl, rfl⟩
    have after : Shut ⟨replies, 1, [0], [], false⟩ last :=
      TransitionSystem.run_invariant (fun _ _ _ => shut_lookup) shut ran
    unfold Wrapper.closedb
    rw [after.idle, after.closed, after.same]
    exact ⟨rfl, rfl, rfl⟩
  · rw [if_neg failed]
    have opened := Wrapper.openorcreate_effect registered false
    have usable : Usable (Wrapper.constructed dirty replies).openexistingdb.2 := by
      have sound := opened.sound_iff.mpr ⟨Wrapper.sound_constructed dirty replies, rfl, failed⟩
      refine ⟨rfl, opened.registered, sound, ?_⟩
      have idle : (Wrapper.constructed dirty replies).openexistingdb.2.self.litestmnt = none := by
        unfold Wrapper.openexistingdb Wrapper.openorcreate
        split <;> rfl
      rw [idle]
      exact Ledger.dangling_none _
    have after : Usable last :=
      TransitionSystem.run_invariant (fun _ _ _ => usable_lookup) usable ran
    have closed := Wrapper.closedb_effect after.registered
    have sound := closed.sound_iff.mpr ⟨after.sound, after.attached⟩
    have empty := (closed.registered.connections_of_none sound).mp rfl
    exact ⟨sound.proper, closed.registered.no_statements empty, empty⟩

/-- A license type and one address. -/
def answers (time : Nat) : Reply where
  opened := .ok
  busyTimeout := true
  prepared := .ok ()
  index := 1
  bound := true
  stepped := if time = 9 then .done else .row [.text (ascii "127.0.0.1")]

/-- The statement of the first lookup is live until the second one begins. -/
theorem left_by_destructor_two_lookups : ∃ last,
    lifetime.run (Wrapper.constructed true answers).openexistingdb.2
        [.userLicenseType (ascii "a"), .userValidIPs (ascii "a") 2] = some last ∧
      last.closedb.2.ledger.statements = [] := by
  have ended : (lifetime.run (Wrapper.constructed true answers).openexistingdb.2
      [.userLicenseType (ascii "a"), .userValidIPs (ascii "a") 2]).isSome := by
    decide
  obtain ⟨last, ran⟩ := Option.isSome_iff_exists.mp ended
  exact ⟨last, ran, (left_by_destructor ran).2.1⟩

end Database

end LicensingServer
