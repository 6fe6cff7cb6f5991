import LicensingServer.Database.Ledger

/-!
Owns what a ledger and the two pointers of `csqliter` agree on, and what each of
its members at statement level does to that, exactly.

Does not own what any call returns, or the members that open and close the file.
-/

set_option autoImplicit false

namespace LicensingServer

open LicensingServer.Foundations

namespace Ledger

/-! ### What a ledger and its user agree on -/

/-- A statement that can be used. -/
def Live (ledger : Ledger) (stmt : Option Nat) : Prop := ∃ live ∈ stmt, ledger.IsLive live

/-- A pointer to a statement that is gone. -/
def Dangling (ledger : Ledger) (stmt : Option Nat) : Prop := ∃ gone ∈ stmt, ¬ ledger.IsLive gone

instance (ledger : Ledger) (stmt : Option Nat) : Decidable (ledger.Live stmt) := by
  unfold Live
  infer_instance

instance (ledger : Ledger) (stmt : Option Nat) : Decidable (ledger.Dangling stmt) := by
  unfold Dangling
  infer_instance

@[simp] theorem live_none (ledger : Ledger) : ¬ ledger.Live none := by simp [Live]

@[simp] theorem dangling_none (ledger : Ledger) : ¬ ledger.Dangling none := by simp [Dangling]

@[simp] theorem dangling_some (ledger : Ledger) (stmt : Nat) :
    ledger.Dangling (some stmt) ↔ ¬ ledger.IsLive stmt := by simp [Dangling]

/-- What holds of every ledger, however it is used. -/
structure Registered (ledger : Ledger) (connection : Option Nat) : Prop where
  connections_lt : ∀ live ∈ ledger.connections, live < ledger.made
  statements_lt : ∀ entry ∈ ledger.statements, entry.1 < ledger.made
  nodup : ledger.connections.Nodup
  opened : ∀ live, connection = some live → live ∈ ledger.connections
  owned : ∀ entry ∈ ledger.statements, entry.2 ∈ ledger.connections

/-- Nothing dead was used, and nothing live is out of reach of these pointers. -/
structure Sound (ledger : Ledger) (connection stmt : Option Nat) : Prop where
  proper : ledger.misused = false
  connections : ∀ live ∈ ledger.connections, connection = some live
  statements : ∀ entry ∈ ledger.statements, stmt = some entry.1

theorem not_sound_misuse (ledger : Ledger) (connection stmt : Option Nat) :
    ¬ ledger.misuse.Sound connection stmt := by
  intro sound
  cases sound.proper

theorem Sound.no_statements {ledger : Ledger} {connection : Option Nat}
    (sound : ledger.Sound connection none) : ledger.statements = [] := by
  apply List.eq_nil_iff_forall_not_mem.mpr
  intro entry isEntry
  cases sound.statements entry isEntry

theorem Registered.no_statements {ledger : Ledger} {connection : Option Nat}
    (registered : ledger.Registered connection) (empty : ledger.connections = []) :
    ledger.statements = [] := by
  apply List.eq_nil_iff_forall_not_mem.mpr
  intro entry isEntry
  have owned := registered.owned entry isEntry
  rw [empty] at owned
  cases owned

/-- A pointer is set to null without a loss exactly where it is not to a live
statement. -/
theorem sound_none_iff (ledger : Ledger) (connection stmt : Option Nat) :
    ledger.Sound connection none ↔ ledger.Sound connection stmt ∧ ¬ ledger.Live stmt := by
  constructor
  · intro sound
    have idle := sound.no_statements
    refine ⟨⟨sound.proper, sound.connections, ?_⟩, ?_⟩
    · intro entry isEntry
      rw [idle] at isEntry
      cases isEntry
    · rintro ⟨live, -, isLive⟩
      simp [IsLive, idle] at isLive
  · rintro ⟨sound, notLive⟩
    refine ⟨sound.proper, sound.connections, fun entry isEntry => ?_⟩
    exact absurd ⟨entry.1, sound.statements entry isEntry, List.mem_map_of_mem isEntry⟩ notLive

/-! ### Calls that leave everything as it is -/

/-- The same is live, and no more was misused. -/
structure Undisturbed (before after : Ledger) : Prop where
  made_le : before.made ≤ after.made
  connections : after.connections = before.connections
  statements : after.statements = before.statements
  misused : after.misused = before.misused

theorem Undisturbed.refl (ledger : Ledger) : Undisturbed ledger ledger :=
  ⟨Nat.le_refl _, rfl, rfl, rfl⟩

theorem undisturbed_next (ledger : Ledger) : Undisturbed ledger ledger.next :=
  ⟨Nat.le_succ _, rfl, rfl, rfl⟩

theorem Undisturbed.trans {before middle after : Ledger} (first : Undisturbed before middle)
    (second : Undisturbed middle after) : Undisturbed before after :=
  ⟨first.made_le.trans second.made_le, second.connections.trans first.connections,
    second.statements.trans first.statements, second.misused.trans first.misused⟩

theorem Undisturbed.isLive_iff {before after : Ledger} (same : Undisturbed before after)
    (stmt : Nat) : after.IsLive stmt ↔ before.IsLive stmt := by
  unfold IsLive
  rw [same.statements]

theorem Undisturbed.dangling_iff {before after : Ledger} (same : Undisturbed before after)
    (stmt : Option Nat) : after.Dangling stmt ↔ before.Dangling stmt := by
  unfold Dangling
  simp only [same.isLive_iff]

theorem Undisturbed.sound_iff {before after : Ledger} (same : Undisturbed before after)
    (connection stmt : Option Nat) :
    after.Sound connection stmt ↔ before.Sound connection stmt := by
  constructor
  · rintro ⟨proper, connections, statements⟩
    rw [same.misused] at proper
    rw [same.connections] at connections
    rw [same.statements] at statements
    exact ⟨proper, connections, statements⟩
  · rintro ⟨proper, connections, statements⟩
    refine ⟨same.misused.trans proper, ?_, ?_⟩
    · rw [same.connections]
      exact connections
    · rw [same.statements]
      exact statements

theorem Undisturbed.registered {before after : Ledger} (same : Undisturbed before after)
    {connection : Option Nat} (registered : before.Registered connection) :
    after.Registered connection where
  connections_lt live isLive := by
    rw [same.connections] at isLive
    exact Nat.lt_of_lt_of_le (registered.connections_lt live isLive) same.made_le
  statements_lt entry isEntry := by
    rw [same.statements] at isEntry
    exact Nat.lt_of_lt_of_le (registered.statements_lt entry isEntry) same.made_le
  nodup := by
    rw [same.connections]
    exact registered.nodup
  opened live isOpen := by
    rw [same.connections]
    exact registered.opened live isOpen
  owned entry isEntry := by
    rw [same.statements] at isEntry
    rw [same.connections]
    exact registered.owned entry isEntry

theorem Registered.misuse {ledger : Ledger} {connection : Option Nat}
    (registered : ledger.Registered connection) : ledger.misuse.Registered connection := by
  have next := (undisturbed_next ledger).registered registered
  exact ⟨next.connections_lt, next.statements_lt, next.nodup, next.opened, next.owned⟩

/-! ### Calls on a statement -/

theorem Registered.finalize {ledger : Ledger} {connection : Option Nat}
    (registered : ledger.Registered connection) (stmt : Nat) :
    ((sqlite connection).finalize ledger stmt).Registered connection := by
  simp only [sqlite]
  split_ifs with live
  · have next := (undisturbed_next ledger).registered registered
    refine ⟨next.connections_lt, fun entry isEntry => ?_, next.nodup, next.opened,
      fun entry isEntry => ?_⟩
    · exact next.statements_lt entry (List.mem_filter.mp isEntry).1
    · exact next.owned entry (List.mem_filter.mp isEntry).1
  · exact registered.misuse

/-- The pointer may be kept or set to null. -/
theorem sound_finalize_iff (ledger : Ledger) (connection : Option Nat) {stmt : Nat}
    {after : Option Nat} (kept : ∀ other ∈ after, other = stmt) :
    ((sqlite connection).finalize ledger stmt).Sound connection after ↔
      ledger.Sound connection (some stmt) ∧ ledger.IsLive stmt := by
  simp only [sqlite]
  split_ifs with live
  · constructor
    · intro sound
      refine ⟨⟨sound.proper, sound.connections, fun entry isEntry => ?_⟩, live⟩
      by_cases same : entry.1 = stmt
      · rw [same]
      · have remains := sound.statements entry (List.mem_filter.mpr ⟨isEntry, by simp [same]⟩)
        exact absurd (kept entry.1 remains) same
    · rintro ⟨sound, -⟩
      refine ⟨sound.proper, sound.connections, fun entry isEntry => ?_⟩
      obtain ⟨before, other⟩ := List.mem_filter.mp isEntry
      have same : stmt = entry.1 := Option.some.inj (sound.statements entry before)
      simp [same] at other
  · simp [not_sound_misuse, live]

/-- A new statement is recorded next to those that are there. -/
theorem Registered.prepared {ledger : Ledger} {connection : Nat}
    (registered : ledger.Registered (some connection)) :
    ({ ledger.next with
        statements := (ledger.made, connection) :: ledger.statements } : Ledger).Registered
      (some connection) := by
  have next := (undisturbed_next ledger).registered registered
  refine ⟨next.connections_lt, fun entry isEntry => ?_, next.nodup, next.opened,
    fun entry isEntry => ?_⟩
  · rcases List.mem_cons.mp isEntry with rfl | before
    · exact Nat.lt_succ_self _
    · exact next.statements_lt entry before
  · rcases List.mem_cons.mp isEntry with rfl | before
    · exact next.opened connection rfl
    · exact next.owned entry before

theorem sound_prepared_iff {ledger : Ledger} {connection : Nat}
    (registered : ledger.Registered (some connection)) :
    ({ ledger.next with
        statements := (ledger.made, connection) :: ledger.statements } : Ledger).Sound
      (some connection) (some ledger.made) ↔ ledger.Sound (some connection) none := by
  constructor
  · intro sound
    refine ⟨sound.proper, sound.connections, fun entry isEntry => ?_⟩
    have same : ledger.made = entry.1 :=
      Option.some.inj (sound.statements entry (List.mem_cons_of_mem _ isEntry))
    have below := registered.statements_lt entry isEntry
    omega
  · intro sound
    refine ⟨sound.proper, sound.connections, fun entry isEntry => ?_⟩
    rcases List.mem_cons.mp isEntry with rfl | before
    · rfl
    · cases sound.statements entry before

theorem isLive_of_prepared {connection : Option Nat} {ledger last : Ledger} {sql : Bytes}
    {stmt : Nat} (prepared : (sqlite connection).prepare ledger sql = (last, .ok stmt)) :
    last.IsLive stmt := by
  cases connection with
  | none => cases (Prod.mk.inj prepared).2
  | some connection =>
      simp only [sqlite] at prepared
      split_ifs at prepared
      · split at prepared
        · simp only [Prod.mk.injEq, PrepareResult.ok.injEq] at prepared
          obtain ⟨rfl, rfl⟩ := prepared
          simp [IsLive]
        · cases (Prod.mk.inj prepared).2
        · cases (Prod.mk.inj prepared).2
      · cases (Prod.mk.inj prepared).2

end Ledger

namespace Csqliter

variable {connection : Option Nat}

/-! ### Members at statement level -/

/-- What a call does: the object and the ledger are sound after it exactly when
they were before it and the call met its condition. -/
structure Effect (connection : Option Nat) (before : Csqliter Nat) (ledger : Ledger)
    (after : Csqliter Nat) (last : Ledger) (careful : Prop) : Prop where
  db : after.db = before.db
  registered : last.Registered connection
  sound_iff : last.Sound connection after.litestmnt ↔
    ledger.Sound connection before.litestmnt ∧ careful
  attached : ¬ ledger.Dangling before.litestmnt → ¬ last.Dangling after.litestmnt

theorem Effect.of_undisturbed {self after : Csqliter Nat} {ledger last : Ledger}
    {careful : Prop} (registered : ledger.Registered connection)
    (same : Ledger.Undisturbed ledger last) (db : after.db = self.db)
    (stmt : after.litestmnt = self.litestmnt) (met : careful) :
    Effect connection self ledger after last careful where
  db := db
  registered := same.registered registered
  sound_iff := by rw [stmt, same.sound_iff, and_iff_left met]
  attached := by
    rw [stmt, same.dangling_iff]
    exact id

theorem Effect.trans {self middle after : Csqliter Nat} {ledger between last : Ledger}
    {first second : Prop} (before : Effect connection self ledger middle between first)
    (behind : Effect connection middle between after last second) :
    Effect connection self ledger after last (first ∧ second) where
  db := behind.db.trans before.db
  registered := behind.registered
  sound_iff := by rw [behind.sound_iff, before.sound_iff, and_assoc]
  attached attached := behind.attached (before.attached attached)

theorem Effect.congr {self after : Csqliter Nat} {ledger last : Ledger} {careful other : Prop}
    (effect : Effect connection self ledger after last careful) (same : careful ↔ other) :
    Effect connection self ledger after last other := by
  rw [← same]
  exact effect

theorem finalizestatement_effect {ledger : Ledger} (registered : ledger.Registered connection)
    (self : Csqliter Nat) :
    Effect connection self ledger
      (finalizestatement (Ledger.sqlite connection) self ledger).1
      (finalizestatement (Ledger.sqlite connection) self ledger).2
      (self.db = true → ¬ ledger.Dangling self.litestmnt) := by
  cases opened : self.db with
  | false =>
      have unused : finalizestatement (Ledger.sqlite connection) self ledger =
          ({ self with valsin := [], valtypesout := [] }, ledger) := by
        simp [finalizestatement, opened]
      rw [unused]
      refine .of_undisturbed registered (.refl ledger) rfl rfl ?_
      simp
  | true =>
      cases live : self.litestmnt with
      | none =>
          rw [finalizestatement_of_none _ live]
          refine .of_undisturbed registered (.refl ledger) rfl rfl ?_
          simp
      | some stmt =>
          rw [finalizestatement_of_live _ opened live]
          refine ⟨rfl, registered.finalize stmt, ?_, fun _ => Ledger.dangling_none _⟩
          rw [Ledger.sound_finalize_iff ledger connection (by simp), live]
          simp

/-- With the connection of the ledger, and as `prepare` answers there. -/
theorem compilesql_effect {ledger : Ledger} (registered : ledger.Registered connection)
    {self : Csqliter Nat} (opened : self.db = connection.isSome) :
    Effect connection self ledger
      (compilesql (Ledger.sqlite connection) self ledger).2.1
      (compilesql (Ledger.sqlite connection) self ledger).2.2
      (self.db = true → self.stmntsql ≠ [] → ¬ ledger.Live self.litestmnt) := by
  cases connection with
  | none =>
      have closed : self.db = false := opened
      have unused : compilesql (Ledger.sqlite none) self ledger = (.otherdberror, self, ledger) := by
        simp [compilesql, closed]
      rw [unused]
      refine .of_undisturbed registered (.refl ledger) rfl rfl ?_
      simp [closed]
  | some connection =>
      have isOpen : self.db = true := opened
      by_cases blank : self.stmntsql = []
      · have unused : compilesql (Ledger.sqlite (some connection)) self ledger =
            (.otherdberror, self, ledger) := by
          simp [compilesql, isOpen, blank]
        rw [unused]
        refine .of_undisturbed registered (.refl ledger) rfl rfl ?_
        simp [blank]
      · have known : connection ∈ ledger.connections := registered.opened connection rfl
        have same := ledger.undisturbed_next
        have forgets : ledger.Sound (some connection) none ↔
            ledger.Sound (some connection) self.litestmnt ∧
              (self.db = true → self.stmntsql ≠ [] → ¬ ledger.Live self.litestmnt) := by
          rw [ledger.sound_none_iff (some connection) self.litestmnt]
          simp [isOpen, blank]
        unfold compilesql
        rw [if_neg (by simp [isOpen]), if_neg blank]
        cases answer : ledger.reply.prepared with
        | ok _ =>
            simp only [Ledger.sqlite, known, not_true_eq_false, if_false, answer]
            refine ⟨rfl, registered.prepared, ?_, fun _ => ?_⟩
            · exact (Ledger.sound_prepared_iff registered).trans forgets
            · simp [Ledger.IsLive]
        | busy =>
            simp only [Ledger.sqlite, known, not_true_eq_false, if_false, answer]
            refine ⟨rfl, same.registered registered, ?_, fun _ => Ledger.dangling_none _⟩
            exact (same.sound_iff _ _).trans forgets
        | error =>
            simp only [Ledger.sqlite, known, not_true_eq_false, if_false, answer]
            refine ⟨rfl, same.registered registered, ?_, fun _ => Ledger.dangling_none _⟩
            exact (same.sound_iff _ _).trans forgets

/-- A compiled statement is live. -/
theorem compilesql_success {ledger last : Ledger} {self after : Csqliter Nat}
    (compiled : compilesql (Ledger.sqlite connection) self ledger = (.successdb, after, last)) :
    ∃ stmt, after.litestmnt = some stmt ∧ last.IsLive stmt := by
  unfold compilesql at compiled
  split_ifs at compiled
  · simp at compiled
  · simp at compiled
  · generalize prepared : (Ledger.sqlite connection).prepare ledger self.stmntsql = answer
      at compiled
    rcases answer with ⟨between, stmt | _ | _⟩
    · simp only [Prod.mk.injEq, true_and] at compiled
      obtain ⟨rfl, rfl⟩ := compiled
      exact ⟨stmt, rfl, Ledger.isLive_of_prepared prepared⟩
    · simp at compiled
    · simp at compiled

/-- Where the text is not blank, a failure leaves no statement. -/
theorem compilesql_failure {ledger last : Ledger} {self after : Csqliter Nat}
    {result : DbResultType}
    (compiled : compilesql (Ledger.sqlite connection) self ledger = (result, after, last))
    (opened : self.db = true) (notBlank : self.stmntsql ≠ []) (failed : result ≠ .successdb) :
    after.litestmnt = none := by
  unfold compilesql at compiled
  rw [if_neg (by simp [opened]), if_neg notBlank] at compiled
  split at compiled
  · exact absurd (Prod.mk.inj compiled).1.symm failed
  · cases compiled
    rfl
  · cases compiled
    rfl

theorem bindparameter_undisturbed (connection : Option Nat) {ledger : Ledger} {stmt : Nat}
    (live : ledger.IsLive stmt) (db : Bool) (param : CdbParameter) :
    Ledger.Undisturbed ledger
      (bindparameter (Ledger.sqlite connection) db stmt param ledger).2 := by
  unfold bindparameter
  split_ifs
  · exact .refl ledger
  · simp only [Ledger.sqlite]
    split_ifs
    · exact .refl ledger
    · exact ledger.undisturbed_next

theorem bindparameters_undisturbed (connection : Option Nat) {ledger : Ledger} {stmt : Nat}
    (live : ledger.IsLive stmt) (db : Bool) (params : List CdbParameter) :
    Ledger.Undisturbed ledger
      (bindparameters (Ledger.sqlite connection) db stmt params ledger).2 := by
  induction params generalizing ledger with
  | nil => exact .refl ledger
  | cons param rest inductionHypothesis =>
      have first := bindparameter_undisturbed connection live db param
      unfold bindparameters
      generalize bindparameter (Ledger.sqlite connection) db stmt param ledger = bound at first ⊢
      rcases bound with ⟨_ | _, between⟩
      · exact first
      · exact first.trans (inductionHypothesis ((first.isLive_iff stmt).mpr live))

/-- A statement that could not be compiled, or not be bound, is given up. -/
theorem compilestatement_effect {ledger : Ledger} (registered : ledger.Registered connection)
    {self : Csqliter Nat} (opened : self.db = connection.isSome) :
    Effect connection self ledger
      (compilestatement (Ledger.sqlite connection) self ledger).2.1
      (compilestatement (Ledger.sqlite connection) self ledger).2.2
      (self.db = true →
        if self.stmntsql = [] then ¬ ledger.Dangling self.litestmnt
        else ¬ ledger.Live self.litestmnt) := by
  by_cases blank : self.stmntsql = []
  · -- nothing is compiled, and what is there is finalized
    have fails : compilesql (Ledger.sqlite connection) self ledger =
        (.otherdberror, self, ledger) := by
      simp [compilesql, blank]
    unfold compilestatement
    rw [fails]
    refine (finalizestatement_effect registered self).congr ?_
    rw [if_pos blank]
  · rw [if_neg blank]
    have first := compilesql_effect registered opened
    unfold compilestatement
    generalize compiled : compilesql (Ledger.sqlite connection) self ledger = result at first ⊢
    rcases result with ⟨result, middle, between⟩
    -- what is there after it is null or live, so that it can be finalized
    have givenUp : result ≠ .successdb → Effect connection self ledger
        (finalizestatement (Ledger.sqlite connection) middle between).1
        (finalizestatement (Ledger.sqlite connection) middle between).2
        (self.db = true → ¬ ledger.Live self.litestmnt) := by
      intro failed
      refine (first.trans (finalizestatement_effect first.registered middle)).congr ?_
      have idle : self.db = true → middle.litestmnt = none := fun isOpen =>
        compilesql_failure compiled isOpen blank failed
      rw [first.db]
      constructor
      · intro both isOpen
        exact both.1 isOpen blank
      · intro careful
        refine ⟨fun isOpen _ => careful isOpen, fun isOpen => ?_⟩
        rw [idle isOpen]
        exact between.dangling_none
    cases result
    case successdb =>
      obtain ⟨stmt, holds, live⟩ := compilesql_success compiled
      have bound := bindparameters_undisturbed connection live middle.db middle.valsin
      simp only [holds]
      generalize bindparameters (Ledger.sqlite connection) middle.db stmt middle.valsin between =
        answer at bound ⊢
      have second : Effect connection middle between middle answer.2 True :=
        .of_undisturbed first.registered bound rfl rfl trivial
      rcases answer with ⟨_ | _, last⟩
      · have both := first.trans second
        refine (both.trans (finalizestatement_effect both.registered middle)).congr ?_
        have usable : ¬ last.Dangling middle.litestmnt := by
          rw [bound.dangling_iff, holds]
          simp [live]
        simp [usable, blank]
      · refine (first.trans second).congr ?_
        simp [blank]
    all_goals exact givenUp (by decide)

theorem compilestatement_success {ledger last : Ledger} {self after : Csqliter Nat}
    (compiled : compilestatement (Ledger.sqlite connection) self ledger =
      (.successdb, after, last)) :
    ∃ stmt, after.litestmnt = some stmt ∧ last.IsLive stmt := by
  unfold compilestatement at compiled
  generalize first : compilesql (Ledger.sqlite connection) self ledger = result at compiled
  rcases result with ⟨result, middle, between⟩
  cases result
  case successdb =>
    obtain ⟨stmt, holds, live⟩ := compilesql_success first
    have same := bindparameters_undisturbed connection live middle.db middle.valsin
    simp only [holds] at compiled
    generalize bindparameters (Ledger.sqlite connection) middle.db stmt middle.valsin between =
      bound at compiled same
    rcases bound with ⟨_ | _, bound⟩
    · cases (Prod.mk.inj compiled).1
    · simp only [Prod.mk.injEq, true_and] at compiled
      obtain ⟨rfl, rfl⟩ := compiled
      exact ⟨stmt, holds, (same.isLive_iff stmt).mpr live⟩
  all_goals cases (Prod.mk.inj compiled).1

/-- A step changes no member but the row, and delivers one only if SQLite did. -/
theorem stepstatement_of_live {World : Type} (api : Sqlite World Nat) {self : Csqliter Nat}
    {stmt : Nat} (opened : self.db = true) (live : self.litestmnt = some stmt) (world : World) :
    ∃ result row, stepstatement api self world =
        (result, { self with rowdata := row }, (api.step world stmt).1) ∧
      (result = .rowresultdb → ∃ columns, (api.step world stmt).2 = .row columns) := by
  unfold stepstatement
  rw [if_neg (by simp [opened])]
  split
  · next absent => cases live.symm.trans absent
  · next other same =>
      obtain rfl : stmt = other := Option.some.inj (live.symm.trans same)
      split
      · next answer => exact ⟨_, self.rowdata, by rw [answer], by simp⟩
      · next answer => exact ⟨_, self.rowdata, by rw [answer], by simp⟩
      · next answer => exact ⟨_, self.rowdata, by rw [answer], by simp⟩
      · next columns answer =>
          split_ifs
          · exact ⟨_, self.rowdata, by rw [answer], by simp⟩
          · exact ⟨_, _, by rw [answer], fun _ => ⟨columns, by rw [answer]⟩⟩

theorem stepstatement_effect {ledger : Ledger} (registered : ledger.Registered connection)
    (self : Csqliter Nat) :
    Effect connection self ledger
      (stepstatement (Ledger.sqlite connection) self ledger).2.1
      (stepstatement (Ledger.sqlite connection) self ledger).2.2
      (self.db = true → ¬ ledger.Dangling self.litestmnt) := by
  cases opened : self.db with
  | false =>
      have unused : stepstatement (Ledger.sqlite connection) self ledger =
          (.otherdberror, self, ledger) := by
        simp [stepstatement, opened]
      rw [unused]
      refine .of_undisturbed registered (.refl ledger) rfl rfl ?_
      simp
  | true =>
      cases live : self.litestmnt with
      | none =>
          have unused : stepstatement (Ledger.sqlite connection) self ledger =
              (.otherdberror, self, ledger) := by
            simp [stepstatement, opened, live]
          rw [unused]
          refine .of_undisturbed registered (.refl ledger) rfl rfl ?_
          simp
      | some stmt =>
          obtain ⟨result, row, stepped, -⟩ :=
            stepstatement_of_live (Ledger.sqlite connection) opened live ledger
          rw [stepped]
          by_cases isLive : ledger.IsLive stmt
          · have next : ((Ledger.sqlite connection).step ledger stmt).1 = ledger.next := by
              simp [Ledger.sqlite, isLive]
            rw [next]
            refine .of_undisturbed registered ledger.undisturbed_next rfl rfl ?_
            simp [isLive]
          · have misused : ((Ledger.sqlite connection).step ledger stmt).1 = ledger.misuse := by
              simp [Ledger.sqlite, isLive]
            rw [misused]
            refine ⟨rfl, registered.misuse, ?_, fun attached => ?_⟩
            · simp [Ledger.not_sound_misuse, isLive]
            · rw [live, Ledger.dangling_some] at attached
              exact absurd isLive attached

/-- A row comes out of a statement that is live. -/
theorem stepstatement_row {ledger last : Ledger} {self after : Csqliter Nat}
    (delivered : stepstatement (Ledger.sqlite connection) self ledger =
      (.rowresultdb, after, last)) :
    after.statementdirty = self.statementdirty ∧ ¬ last.Dangling after.litestmnt := by
  cases opened : self.db with
  | false => simp [stepstatement, opened] at delivered
  | true =>
      cases live : self.litestmnt with
      | none => simp [stepstatement, opened, live] at delivered
      | some stmt =>
          obtain ⟨result, row, stepped, came⟩ :=
            stepstatement_of_live (Ledger.sqlite connection) opened live ledger
          rw [stepped] at delivered
          simp only [Prod.mk.injEq] at delivered
          obtain ⟨isRow, rfl, rfl⟩ := delivered
          obtain ⟨columns, isColumns⟩ := came isRow
          refine ⟨rfl, ?_⟩
          by_cases isLive : ledger.IsLive stmt
          · simp only [Ledger.sqlite, if_pos isLive, live, Ledger.dangling_some, not_not]
            exact (ledger.undisturbed_next.isLive_iff stmt).mpr isLive
          · simp [Ledger.sqlite, isLive] at isColumns

theorem runcompiled_effect {ledger : Ledger} (registered : ledger.Registered connection)
    (self : Csqliter Nat) :
    Effect connection self ledger
      (runcompiled (Ledger.sqlite connection) self ledger).2.1
      (runcompiled (Ledger.sqlite connection) self ledger).2.2
      (self.db = true → ¬ ledger.Dangling self.litestmnt) := by
  have first := stepstatement_effect registered self
  unfold runcompiled
  generalize stepstatement (Ledger.sqlite connection) self ledger = result at first ⊢
  rcases result with ⟨result, middle, between⟩
  cases result
  case successdb =>
    refine (first.trans (finalizestatement_effect first.registered middle)).congr ?_
    rw [first.db]
    constructor
    · exact And.left
    · intro careful
      exact ⟨careful, fun isOpen => first.attached (careful isOpen)⟩
  all_goals exact first

/-- When `runstep` is safe: what it compiles must not be in the place of a live
statement, and what it steps or gives up must be one. -/
def StepSafe (self : Csqliter Nat) (ledger : Ledger) : Prop :=
  self.db = true →
    if self.statementdirty = true ∧ self.stmntsql ≠ [] then ¬ ledger.Live self.litestmnt
    else ¬ ledger.Dangling self.litestmnt

instance (self : Csqliter Nat) (ledger : Ledger) : Decidable (StepSafe self ledger) := by
  unfold StepSafe
  infer_instance

theorem stepSafe_of_clean {self : Csqliter Nat} {ledger : Ledger}
    (clean : self.statementdirty = false) (attached : ¬ ledger.Dangling self.litestmnt) :
    StepSafe self ledger := by
  unfold StepSafe
  simp [clean, attached]

theorem runstep_effect {ledger : Ledger} (registered : ledger.Registered connection)
    {self : Csqliter Nat} (opened : self.db = connection.isSome) :
    Effect connection self ledger
      (runstep (Ledger.sqlite connection) self ledger).2.1
      (runstep (Ledger.sqlite connection) self ledger).2.2
      (StepSafe self ledger) := by
  unfold runstep
  split_ifs with dirty
  · have first := compilestatement_effect registered opened
    have same : (self.db = true → if self.stmntsql = [] then ¬ ledger.Dangling self.litestmnt
        else ¬ ledger.Live self.litestmnt) ↔ StepSafe self ledger := by
      unfold StepSafe
      by_cases blank : self.stmntsql = [] <;> simp [dirty, blank]
    generalize compiled : compilestatement (Ledger.sqlite connection) self ledger = result
      at first ⊢
    rcases result with ⟨result, middle, between⟩
    cases result
    case successdb =>
      obtain ⟨stmt, holds, live⟩ := compilestatement_success compiled
      have cleaned : Effect connection middle between { middle with statementdirty := false }
          between True :=
        .of_undisturbed first.registered (.refl between) rfl rfl trivial
      refine ((first.trans cleaned).trans (runcompiled_effect first.registered _)).congr ?_
      rw [← same]
      simp [holds, live]
    all_goals exact first.congr same
  · refine (runcompiled_effect registered self).congr ?_
    unfold StepSafe
    simp [dirty]

theorem runcompiled_row {ledger last : Ledger} {self after : Csqliter Nat}
    (delivered : runcompiled (Ledger.sqlite connection) self ledger =
      (.rowresultdb, after, last)) :
    after.statementdirty = self.statementdirty ∧ ¬ last.Dangling after.litestmnt := by
  unfold runcompiled at delivered
  generalize stepped : stepstatement (Ledger.sqlite connection) self ledger = result at delivered
  rcases result with ⟨result, middle, between⟩
  cases result
  case successdb => cases (Prod.mk.inj delivered).1
  case rowresultdb =>
    cases delivered
    exact stepstatement_row stepped
  all_goals cases (Prod.mk.inj delivered).1

theorem compilesql_ne_row {World : Type} (api : Sqlite World Nat) (self : Csqliter Nat)
    (world : World) : (compilesql api self world).1 ≠ .rowresultdb := by
  unfold compilesql
  split_ifs
  · simp
  · simp
  · split <;> simp

theorem compilestatement_ne_row {World : Type} (api : Sqlite World Nat) (self : Csqliter Nat)
    (world : World) : (compilestatement api self world).1 ≠ .rowresultdb := by
  have compiled := compilesql_ne_row api self world
  unfold compilestatement
  split
  · split
    · simp
    · split <;> simp
  · next answer =>
      rw [answer] at compiled
      exact compiled

/-- Where `runstep` delivered a row it may be called again. -/
theorem runstep_row {ledger last : Ledger} {self after : Csqliter Nat}
    (delivered : runstep (Ledger.sqlite connection) self ledger = (.rowresultdb, after, last)) :
    after.statementdirty = false ∧ ¬ last.Dangling after.litestmnt := by
  unfold runstep at delivered
  split_ifs at delivered with dirty
  · have compiled := compilestatement_ne_row (Ledger.sqlite connection) self ledger
    split at delivered
    · exact runcompiled_row delivered
    · rw [delivered] at compiled
      exact absurd rfl compiled
  · rw [Bool.not_eq_true] at dirty
    rw [← dirty]
    exact runcompiled_row delivered

end Csqliter

end LicensingServer
