import LicensingServer.Foundations.TransitionSystem
import LicensingServer.Database.Holdings

/-!
Owns which calls of the public members of `csqliter` are safe: after any run of
them nothing dead was used and nothing live was lost, exactly when every call of
the run met its condition; and what the use that `Database` makes of them leaves.

Does not own what any call returns.
-/

set_option autoImplicit false

namespace LicensingServer

open LicensingServer.Foundations

namespace Ledger

/-! ### Opening and closing -/

theorem Registered.connections_of_none {ledger : Ledger} {connection stmt : Option Nat}
    (registered : ledger.Registered connection) (sound : ledger.Sound connection stmt) :
    connection = none ↔ ledger.connections = [] := by
  constructor
  · intro closed
    apply List.eq_nil_iff_forall_not_mem.mpr
    intro live isLive
    have same := sound.connections live isLive
    rw [closed] at same
    cases same
  · intro empty
    cases connection with
    | none => rfl
    | some connection =>
        have isLive := registered.opened connection rfl
        rw [empty] at isLive
        cases isLive

/-- Without a connection there is no statement either. -/
theorem Registered.sound_of_no_connections {ledger : Ledger} {connection : Option Nat}
    (registered : ledger.Registered connection) (proper : ledger.misused = false)
    (empty : ledger.connections = []) (other stmt : Option Nat) : ledger.Sound other stmt := by
  refine ⟨proper, fun live isLive => ?_, fun entry isEntry => ?_⟩
  · rw [empty] at isLive
    cases isLive
  · rw [registered.no_statements empty] at isEntry
    cases isEntry

theorem Registered.close {ledger : Ledger} {connection : Option Nat}
    (registered : ledger.Registered connection) :
    (ledger.close connection).2.Registered none := by
  have next := ledger.undisturbed_next.registered registered
  cases connection with
  | none => exact next
  | some connection =>
      simp only [Ledger.close]
      split_ifs with known used
      · exact ⟨next.connections_lt, next.statements_lt, next.nodup, by simp, next.owned⟩
      · refine ⟨fun live isLive => ?_, next.statements_lt, next.nodup.erase _, by simp,
          fun entry isEntry => ?_⟩
        · exact next.connections_lt live (List.mem_of_mem_erase isLive)
        · have other : entry.2 ≠ connection := by
            rintro rfl
            exact used (List.mem_map_of_mem isEntry)
          exact (List.mem_erase_of_ne other).mpr (next.owned entry isEntry)
      · exact absurd (registered.opened connection rfl) known

/-- Whatever a pointer to a statement says afterwards. -/
theorem Registered.sound_close_iff {ledger : Ledger} {connection : Option Nat}
    (registered : ledger.Registered connection) (stmt : Option Nat) :
    (ledger.close connection).2.Sound none stmt ↔ ledger.Sound connection none := by
  constructor
  · intro sound
    have proper := sound.proper
    have empty := (registered.close.connections_of_none sound).mp rfl
    cases connection with
    | none => exact registered.sound_of_no_connections proper empty none none
    | some connection =>
        have known := registered.opened connection rfl
        simp only [Ledger.close, known, not_true_eq_false, if_false] at proper empty
        split_ifs at proper empty with used
        · -- SQLite has refused, and the connection is lost
          change ledger.connections = [] at empty
          rw [empty] at known
          cases known
        · have only : ∀ live ∈ ledger.connections, live = connection := by
            intro live isLive
            by_contra other
            have remains := (List.mem_erase_of_ne other).mpr isLive
            change ledger.connections.erase connection = [] at empty
            rw [empty] at remains
            cases remains
          refine ⟨proper, fun live isLive => by rw [only live isLive], fun entry isEntry => ?_⟩
          have same := only entry.2 (registered.owned entry isEntry)
          exact absurd (by rw [← same]; exact List.mem_map_of_mem isEntry) used
  · intro sound
    have idle := sound.no_statements
    have next := registered.close
    cases connection with
    | none =>
        have empty := (registered.connections_of_none sound).mp rfl
        exact next.sound_of_no_connections sound.proper empty none stmt
    | some connection =>
        have known := registered.opened connection rfl
        simp only [Ledger.close, known, idle, List.map_nil, List.not_mem_nil, not_true_eq_false,
          if_false] at next ⊢
        apply next.sound_of_no_connections sound.proper
        apply List.eq_nil_iff_forall_not_mem.mpr
        intro live isLive
        have same := sound.connections live (List.mem_of_mem_erase isLive)
        obtain rfl : connection = live := Option.some.inj same
        exact registered.nodup.not_mem_erase isLive

/-- The pointer to the connection is overwritten without a loss exactly where it
is null. -/
theorem Registered.sound_closed_iff {ledger : Ledger} {connection : Option Nat}
    (registered : ledger.Registered connection) (stmt : Option Nat) :
    ledger.Sound none stmt ↔ ledger.Sound connection stmt ∧ connection = none := by
  constructor
  · intro sound
    have closed : connection = none := by
      cases connection with
      | none => rfl
      | some connection => cases sound.connections connection (registered.opened connection rfl)
    rw [closed]
    exact ⟨sound, rfl⟩
  · rintro ⟨sound, rfl⟩
    exact sound

/-- A new connection is recorded next to those that are there. -/
theorem Registered.connected {ledger : Ledger} {connection : Option Nat}
    (registered : ledger.Registered connection) (after : Option Nat)
    (pointer : ∀ live ∈ after, live = ledger.made) :
    ({ ledger.next with
        connections := ledger.made :: ledger.connections } : Ledger).Registered after := by
  have next := ledger.undisturbed_next.registered registered
  refine ⟨fun live isLive => ?_, next.statements_lt, ?_, fun live isOpen => ?_,
    fun entry isEntry => List.mem_cons_of_mem _ (next.owned entry isEntry)⟩
  · rcases List.mem_cons.mp isLive with rfl | before
    · exact Nat.lt_succ_self _
    · exact next.connections_lt live before
  · refine List.nodup_cons.mpr ⟨fun old => ?_, next.nodup⟩
    exact absurd (registered.connections_lt _ old) (Nat.lt_irrefl _)
  · rw [pointer live isOpen]
    exact List.mem_cons_self

theorem Registered.sound_connected_iff {ledger : Ledger} {connection : Option Nat}
    (registered : ledger.Registered connection) (stmt : Option Nat) :
    ({ ledger.next with
        connections := ledger.made :: ledger.connections } : Ledger).Sound
      (some ledger.made) stmt ↔ ledger.Sound none stmt := by
  constructor
  · intro sound
    refine ⟨sound.proper, fun live isLive => ?_, sound.statements⟩
    have same : ledger.made = live :=
      Option.some.inj (sound.connections live (List.mem_cons_of_mem _ isLive))
    have below := registered.connections_lt live isLive
    omega
  · intro sound
    refine ⟨sound.proper, fun live isLive => ?_, sound.statements⟩
    rcases List.mem_cons.mp isLive with rfl | before
    · rfl
    · cases sound.connections live before

end Ledger

/-! ### Members at database level -/

namespace Wrapper

def Registered (wrapper : Wrapper) : Prop := wrapper.ledger.Registered wrapper.connection

/-- Nothing dead was used, and nothing live is out of reach of the object. -/
def Sound (wrapper : Wrapper) : Prop :=
  wrapper.ledger.Sound wrapper.connection wrapper.members.litestmnt

/-- What a call does: the object is sound after it exactly when it was before it
and the call met its condition. -/
structure Effect (before after : Wrapper) (careful : Prop) : Prop where
  registered : after.Registered
  sound_iff : after.Sound ↔ before.Sound ∧ careful

theorem Effect.trans {before middle after : Wrapper} {first second : Prop}
    (start : Effect before middle first) (rest : Effect middle after second) :
    Effect before after (first ∧ second) where
  registered := rest.registered
  sound_iff := by rw [rest.sound_iff, start.sound_iff, and_assoc]

theorem Effect.congr {before after : Wrapper} {careful other : Prop}
    (effect : Effect before after careful) (same : careful ↔ other) :
    Effect before after other := by
  rw [← same]
  exact effect

theorem openorcreate_effect {wrapper : Wrapper} (registered : wrapper.Registered)
    (create : Bool) :
    Effect wrapper (wrapper.openorcreate create).2
      (wrapper.connection = none ∧ wrapper.ledger.reply.opened ≠ .failed) := by
  have closed := registered.sound_closed_iff wrapper.members.litestmnt
  unfold openorcreate Ledger.openV2
  cases answer : wrapper.ledger.reply.opened with
  | ok =>
      have pointed := registered.connected (some wrapper.ledger.made) (by simp)
      have same := Ledger.undisturbed_next { wrapper.ledger.next with
        connections := wrapper.ledger.made :: wrapper.ledger.connections }
      refine ⟨same.registered pointed, ?_⟩
      refine (same.sound_iff _ _).trans ?_
      refine (registered.sound_connected_iff _).trans ?_
      simpa [Sound] using closed
  | failed =>
      -- the connection is there, and is forgotten
      refine ⟨registered.connected none (by simp), ?_⟩
      constructor
      · intro sound
        cases sound.connections _ List.mem_cons_self
      · rintro ⟨-, -, notFailed⟩
        exact absurd rfl notFailed
  | noMemory =>
      have next := wrapper.ledger.undisturbed_next
      have same := next.registered registered
      refine ⟨⟨same.connections_lt, same.statements_lt, same.nodup, by simp, same.owned⟩, ?_⟩
      refine (next.sound_iff _ _).trans ?_
      simpa [Sound] using closed

theorem closedb_effect {wrapper : Wrapper} (registered : wrapper.Registered) :
    Effect wrapper wrapper.closedb.2
      (¬ wrapper.ledger.Dangling wrapper.members.litestmnt) := by
  unfold closedb
  cases pointer : wrapper.members.litestmnt with
  | none =>
      have closed := Ledger.Registered.sound_close_iff registered none
      refine ⟨Ledger.Registered.close registered, ?_⟩
      simp [Sound, pointer, closed]
  | some stmt =>
      have finalized := Ledger.Registered.finalize registered stmt
      refine ⟨finalized.close, ?_⟩
      refine (finalized.sound_close_iff _).trans ?_
      rw [Ledger.sound_finalize_iff wrapper.ledger wrapper.connection (by simp)]
      simp [Sound, pointer]

/-- What `createdb` needs: the first attempt fails without a connection and the
second does not leave one, or the first succeeds and what is closed then is not
in use any more. -/
def CreateSafe (wrapper : Wrapper) : Prop :=
  wrapper.connection = none ∧
    match wrapper.ledger.reply.opened with
    | .ok => wrapper.ledger.next.reply.busyTimeout = true ∧
        ¬ wrapper.ledger.Dangling wrapper.members.litestmnt
    | .failed => False
    | .noMemory => wrapper.ledger.next.reply.opened ≠ .failed

instance (wrapper : Wrapper) : Decidable wrapper.CreateSafe := by
  unfold CreateSafe
  cases wrapper.ledger.reply.opened <;> infer_instance

theorem createdb_effect {wrapper : Wrapper} (registered : wrapper.Registered) :
    Effect wrapper wrapper.createdb.2 wrapper.CreateSafe := by
  have first := openorcreate_effect registered false
  unfold CreateSafe
  cases answer : wrapper.ledger.reply.opened with
  | ok =>
      have opened : wrapper.openorcreate false =
          (if wrapper.ledger.next.reply.busyTimeout then .successdb else .otherdberror,
            { wrapper with
              connection := some wrapper.ledger.made
              ledger := ({ wrapper.ledger.next with
                connections := wrapper.ledger.made :: wrapper.ledger.connections } :
                  Ledger).next }) := by
        simp only [openorcreate, Ledger.openV2, answer]
        rfl
      rw [opened] at first
      by_cases timeout : wrapper.ledger.next.reply.busyTimeout
      · have after := first.trans (closedb_effect first.registered)
        rw [createdb, opened, if_pos timeout]
        refine after.congr ?_
        simp only [answer, timeout, ne_eq, reduceCtorEq, not_false_eq_true, and_true, true_and]
        rfl
      · -- the connection is open, and the second attempt overwrites it
        have after := first.trans (openorcreate_effect first.registered true)
        rw [createdb, opened, if_neg timeout]
        refine after.congr ?_
        simp [timeout]
  | failed =>
      have after := first.trans (openorcreate_effect first.registered true)
      have opened : (wrapper.openorcreate false).1 = .otherdberror := by
        simp [openorcreate, Ledger.openV2, answer]
      have second : wrapper.createdb = (wrapper.openorcreate false).2.openorcreate true := by
        rw [createdb, ← Prod.eta (wrapper.openorcreate false), opened]
      rw [second]
      refine after.congr ?_
      simp [answer]
  | noMemory =>
      have opened : wrapper.openorcreate false =
          (.otherdberror, { wrapper with connection := none, ledger := wrapper.ledger.next }) := by
        simp only [openorcreate, Ledger.openV2, answer]
      rw [opened] at first
      have after := first.trans (openorcreate_effect first.registered true)
      rw [createdb, opened]
      refine after.congr ?_
      simp [answer]

/-! ### Members at statement level -/

theorem setsql_effect {wrapper : Wrapper} (registered : wrapper.Registered) (sql : Bytes) :
    Effect wrapper (wrapper.setsql sql)
      (wrapper.connection ≠ none → ¬ wrapper.ledger.Dangling wrapper.members.litestmnt) := by
  have effect := Csqliter.finalizestatement_effect registered wrapper.self
  refine ⟨effect.registered, effect.sound_iff.trans ?_⟩
  simp [Sound, self, Option.isSome_iff_ne_none]

theorem runstep_effect {wrapper : Wrapper} (registered : wrapper.Registered) :
    Effect wrapper wrapper.runstep.2 (Csqliter.StepSafe wrapper.self wrapper.ledger) := by
  have effect := @Csqliter.runstep_effect _ _ registered wrapper.self rfl
  exact ⟨effect.registered, effect.sound_iff⟩

/-- The second call is always safe where the first one was. -/
theorem runsinglestepstatement_effect {wrapper : Wrapper} (registered : wrapper.Registered) :
    Effect wrapper wrapper.runsinglestepstatement.2.2
      (Csqliter.StepSafe wrapper.self wrapper.ledger) := by
  have first := runstep_effect registered
  unfold runsinglestepstatement
  generalize stepped : wrapper.runstep = result at first ⊢
  rcases result with ⟨result, middle⟩
  cases result
  case rowresultdb =>
    have safe : Csqliter.StepSafe middle.self middle.ledger := by
      simp only [runstep, Prod.mk.injEq] at stepped
      obtain ⟨isRow, rfl⟩ := stepped
      have clean := Csqliter.runstep_row (Prod.ext isRow rfl)
      exact Csqliter.stepSafe_of_clean clean.1 clean.2
    have second := (first.trans (runstep_effect first.registered)).congr (and_iff_left safe)
    simp only
    generalize middle.runstep = answer at second ⊢
    rcases answer with ⟨answer, last⟩
    cases answer
    case successdb => exact ⟨second.registered, second.sound_iff⟩
    all_goals exact second
  all_goals exact first

/-! ### Runs -/

/-- When a call of a public member is safe. -/
def Careful (wrapper : Wrapper) : Operation → Prop
  | .openexistingdb => wrapper.connection = none ∧ wrapper.ledger.reply.opened ≠ .failed
  | .createdb => wrapper.CreateSafe
  | .closedb => ¬ wrapper.ledger.Dangling wrapper.members.litestmnt
  | .setsql _ =>
      wrapper.connection ≠ none → ¬ wrapper.ledger.Dangling wrapper.members.litestmnt
  | .runstep | .runsinglestepstatement => Csqliter.StepSafe wrapper.self wrapper.ledger
  | _ => True

instance (wrapper : Wrapper) (operation : Operation) : Decidable (wrapper.Careful operation) := by
  cases operation <;> unfold Careful <;> infer_instance

theorem change_effect {wrapper : Wrapper} (registered : wrapper.Registered)
    {member : Csqliter Nat → Csqliter Nat}
    (kept : (member wrapper.members).litestmnt = wrapper.members.litestmnt) :
    Effect wrapper (wrapper.change member) True := by
  refine ⟨registered, ?_⟩
  rw [and_true]
  unfold Sound change
  rw [kept]

theorem perform_effect {wrapper : Wrapper} (registered : wrapper.Registered)
    (operation : Operation) :
    Effect wrapper (wrapper.perform operation) (wrapper.Careful operation) := by
  cases operation with
  | openexistingdb => exact openorcreate_effect registered false
  | createdb => exact createdb_effect registered
  | closedb => exact closedb_effect registered
  | setsql sql => exact setsql_effect registered sql
  | bindstr name arg => exact change_effect registered rfl
  | bindint name arg => exact change_effect registered rfl
  | bindfloat name arg => exact change_effect registered rfl
  | bindblob name arg => exact change_effect registered rfl
  | bindnull name => exact change_effect registered rfl
  | pushvaltypeout valtype => exact change_effect registered rfl
  | runstep => exact runstep_effect registered
  | runsinglestepstatement => exact runsinglestepstatement_effect registered

theorem registered_constructed (dirty : Bool) (replies : Nat → Reply) :
    (constructed dirty replies).Registered :=
  ⟨by simp [constructed], by simp [constructed], List.nodup_nil, by simp [constructed],
    by simp [constructed]⟩

theorem sound_constructed (dirty : Bool) (replies : Nat → Reply) :
    (constructed dirty replies).Sound :=
  ⟨rfl, by simp [constructed], by simp [constructed]⟩

/-- An object of `csqliter` under calls of its public members. -/
def system : TransitionSystem Wrapper Operation where
  initial wrapper := ∃ dirty replies, wrapper = constructed dirty replies
  step wrapper operation := some (wrapper.perform operation)

theorem run_eq_foldl (wrapper : Wrapper) (operations : List Operation) :
    system.run wrapper operations = some (operations.foldl perform wrapper) := by
  induction operations generalizing wrapper with
  | nil => rfl
  | cons operation rest inductionHypothesis => exact inductionHypothesis (wrapper.perform operation)

/-- After any calls of the public members on a new object, and whatever SQLite
answers: no statement or connection was used after its end, and those that are
live are still in reach, exactly when every call met its condition. -/
theorem sound_iff_careful (dirty : Bool) (replies : Nat → Reply) (operations : List Operation) :
    (operations.foldl perform (constructed dirty replies)).Sound ↔
      system.Along Careful (constructed dirty replies) operations := by
  have preserved : ∀ wrapper operation next, Registered wrapper →
      system.step wrapper operation = some next → Registered next := by
    intro wrapper operation next registered taken
    obtain rfl : wrapper.perform operation = next := Option.some.inj taken
    exact (perform_effect registered operation).registered
  have exactly : ∀ wrapper operation next, Registered wrapper →
      system.step wrapper operation = some next →
      (next.Sound ↔ wrapper.Sound ∧ wrapper.Careful operation) := by
    intro wrapper operation next registered taken
    obtain rfl : wrapper.perform operation = next := Option.some.inj taken
    exact (perform_effect registered operation).sound_iff
  rw [TransitionSystem.good_iff_good_and_along preserved exactly
    (registered_constructed dirty replies) (run_eq_foldl _ operations)]
  exact and_iff_right (sound_constructed dirty replies)

/-- To make a new file costs a connection: the attempt to open it fails first. -/
example :
    let reply : Nat → Reply := fun time =>
      ⟨if time = 0 then .failed else .ok, true, .ok (), 1, true, .done⟩
    ¬ (constructed false reply).Careful .createdb ∧
      (constructed false reply).createdb.2.connection = some 1 ∧
      (constructed false reply).createdb.2.ledger.connections = [1, 0] := by
  decide

end Wrapper

end LicensingServer
