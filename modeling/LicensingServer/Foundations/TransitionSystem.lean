import Mathlib.Data.List.Induction
import Mathlib.Order.WellFounded
import Mathlib.Tactic.Common

/-!
Owns labelled transition systems whose labels are deterministic: runs,
reachability under a condition on every step, the induction rule for
invariants, the exact criterion for staying inside a set of good states, and
eventual arrival under a fair schedule.

Does not own any particular state type, and assumes nothing about labels that
are not enabled: a scheduler that picks one leaves the state as it is.
-/

set_option autoImplicit false

namespace LicensingServer.Foundations

universe u v

/-- A transition system. A label that is not enabled in a state has no
successor there. -/
structure TransitionSystem (State : Type u) (Label : Type v) where
  initial : State → Prop
  step : State → Label → Option State

namespace TransitionSystem

variable {State : Type u} {Label : Type v} (system : TransitionSystem State Label)

/-! ### Runs -/

/-- Take the steps of a list of labels in order. -/
def run : State → List Label → Option State
  | state, [] => some state
  | state, label :: rest => (system.step state label).bind fun next => run next rest

theorem run_cons_of_step {state next : State} {label : Label} (rest : List Label)
    (taken : system.step state label = some next) :
    system.run state (label :: rest) = system.run next rest := by
  simp [run, taken]

/-- A run that can be evaluated shows where it leads. -/
theorem ends_in {property : State → Prop} [DecidablePred property] {ran : Option State}
    (found : ran.any (fun last => decide (property last)) = true) :
    ∃ last, ran = some last ∧ property last := by
  cases ran with
  | none => cases found
  | some last => exact ⟨last, rfl, of_decide_eq_true found⟩

/-- The condition holds at every step that the run takes. -/
def Along (condition : State → Label → Prop) : State → List Label → Prop
  | _, [] => True
  | state, label :: rest =>
      condition state label ∧
        ∀ next, system.step state label = some next → Along condition next rest

/-- Take the steps of a list of labels, and stop where one does not meet the
condition. -/
def runMeeting (condition : State → Label → Prop)
    [decidable : ∀ state label, Decidable (condition state label)] :
    State → List Label → Option State
  | state, [] => some state
  | state, label :: rest =>
      if condition state label then
        (system.step state label).bind fun next => runMeeting condition next rest
      else none

/-- States that some run reaches whose steps all meet the condition. -/
inductive ReachableUnder (condition : State → Label → Prop) : State → Prop
  | initial {state : State} (start : system.initial state) : ReachableUnder condition state
  | step {state next : State} {label : Label} (before : ReachableUnder condition state)
      (met : condition state label) (taken : system.step state label = some next) :
      ReachableUnder condition next

/-- States that some run reaches. -/
def Reachable : State → Prop := system.ReachableUnder fun _ _ => True

variable {system}

theorem Reachable.start {state : State} (start : system.initial state) : system.Reachable state :=
  .initial start

theorem Reachable.next {state next : State} {label : Label} (before : system.Reachable state)
    (taken : system.step state label = some next) : system.Reachable next :=
  .step before trivial taken

theorem ReachableUnder.reachable {condition : State → Label → Prop} {state : State}
    (reached : system.ReachableUnder condition state) : system.Reachable state := by
  induction reached with
  | initial start => exact .start start
  | step _ _ taken inductionHypothesis => exact inductionHypothesis.next taken

theorem ReachableUnder.mono {condition weaker : State → Label → Prop}
    (weakens : ∀ state label, condition state label → weaker state label) {state : State}
    (reached : system.ReachableUnder condition state) : system.ReachableUnder weaker state := by
  induction reached with
  | initial start => exact .initial start
  | step _ met taken inductionHypothesis =>
      exact .step inductionHypothesis (weakens _ _ met) taken

/-- A property of the initial states that every step meeting the condition
preserves holds wherever such steps lead. -/
theorem ReachableUnder.invariant {condition : State → Label → Prop} (property : State → Prop)
    (start : ∀ state, system.initial state → property state)
    (preserved : ∀ state label next, property state → condition state label →
      system.step state label = some next → property next)
    {state : State} (reached : system.ReachableUnder condition state) : property state := by
  induction reached with
  | initial initially => exact start _ initially
  | step _ met taken inductionHypothesis => exact preserved _ _ _ inductionHypothesis met taken

theorem Reachable.invariant (property : State → Prop)
    (start : ∀ state, system.initial state → property state)
    (preserved : ∀ state label next, property state →
      system.step state label = some next → property next)
    {state : State} (reached : system.Reachable state) : property state :=
  ReachableUnder.invariant property start (fun state label next holds _ => preserved state label next holds)
    reached

/-- What every step preserves holds after a run if it held before it. -/
theorem run_invariant {property : State → Prop}
    (preserved : ∀ state label next, property state →
      system.step state label = some next → property next)
    {state last : State} {labels : List Label} (holds : property state)
    (ran : system.run state labels = some last) : property last := by
  induction labels generalizing state with
  | nil =>
      obtain rfl : state = last := Option.some.inj ran
      exact holds
  | cons label rest inductionHypothesis =>
      obtain ⟨next, taken, tail⟩ := Option.bind_eq_some_iff.mp ran
      exact inductionHypothesis (preserved state label next holds taken) tail

theorem Reachable.of_run {state last : State} {labels : List Label}
    (before : system.Reachable state) (ran : system.run state labels = some last) :
    system.Reachable last := by
  induction labels generalizing state with
  | nil =>
      obtain rfl : state = last := Option.some.inj ran
      exact before
  | cons label rest inductionHypothesis =>
      obtain ⟨next, taken, tail⟩ := Option.bind_eq_some_iff.mp ran
      exact inductionHypothesis (before.next taken) tail

theorem ReachableUnder.of_run {condition : State → Label → Prop} {state last : State}
    {labels : List Label} (before : system.ReachableUnder condition state)
    (along : system.Along condition state labels) (ran : system.run state labels = some last) :
    system.ReachableUnder condition last := by
  induction labels generalizing state with
  | nil =>
      obtain rfl : state = last := Option.some.inj ran
      exact before
  | cons label rest inductionHypothesis =>
      obtain ⟨next, taken, tail⟩ := Option.bind_eq_some_iff.mp ran
      exact inductionHypothesis (.step before along.1 taken) (along.2 next taken) tail

theorem ReachableUnder.of_runMeeting {condition : State → Label → Prop}
    [decidable : ∀ state label, Decidable (condition state label)] {state last : State}
    {labels : List Label} (before : system.ReachableUnder condition state)
    (ran : system.runMeeting condition state labels = some last) :
    system.ReachableUnder condition last := by
  induction labels generalizing state with
  | nil =>
      obtain rfl : state = last := Option.some.inj ran
      exact before
  | cons label rest inductionHypothesis =>
      unfold runMeeting at ran
      split_ifs at ran with met
      obtain ⟨next, taken, tail⟩ := Option.bind_eq_some_iff.mp ran
      exact inductionHypothesis (.step before met taken) tail

/-- When a step out of a good state stays good exactly under the condition, and
no step leaves a bad state, a run from a good state ends in a good one exactly
when all its steps meet the condition. -/
theorem good_iff_along {good : State → Prop} {condition : State → Label → Prop}
    {invariant : State → Prop}
    (preserved : ∀ state label next, invariant state →
      system.step state label = some next → invariant next)
    (exact : ∀ state label next, invariant state → good state →
      system.step state label = some next → (good next ↔ condition state label))
    (stuck : ∀ state label, ¬ good state → system.step state label = none)
    {state last : State} {labels : List Label} (holds : invariant state) (starts : good state)
    (ran : system.run state labels = some last) :
    good last ↔ system.Along condition state labels := by
  induction labels generalizing state with
  | nil =>
      obtain rfl : state = last := Option.some.inj ran
      exact ⟨fun _ => trivial, fun _ => starts⟩
  | cons label rest inductionHypothesis =>
      obtain ⟨next, taken, tail⟩ := Option.bind_eq_some_iff.mp ran
      have step := exact state label next holds starts taken
      by_cases good' : good next
      · rw [inductionHypothesis (preserved state label next holds taken) good' tail]
        constructor
        · intro along
          refine ⟨step.mp good', fun other same => ?_⟩
          obtain rfl : next = other := Option.some.inj (taken.symm.trans same)
          exact along
        · intro along
          exact along.2 next taken
      · have ends : next = last := by
          cases rest with
          | nil => exact Option.some.inj tail
          | cons other more => simp [run, stuck next other good'] at tail
        subst ends
        exact ⟨fun isGood => absurd isGood good', fun along => step.mpr along.1⟩

/-- When a step leads to a good state exactly from a good one and under the
condition, a run ends in one exactly from a good one and with all its steps
meeting the condition. -/
theorem good_iff_good_and_along {good : State → Prop} {condition : State → Label → Prop}
    {invariant : State → Prop}
    (preserved : ∀ state label next, invariant state →
      system.step state label = some next → invariant next)
    (exact : ∀ state label next, invariant state →
      system.step state label = some next → (good next ↔ good state ∧ condition state label))
    {state last : State} {labels : List Label} (holds : invariant state)
    (ran : system.run state labels = some last) :
    good last ↔ good state ∧ system.Along condition state labels := by
  induction labels generalizing state with
  | nil =>
      obtain rfl : state = last := Option.some.inj ran
      exact (and_iff_left trivial).symm
  | cons label rest inductionHypothesis =>
      obtain ⟨next, taken, tail⟩ := Option.bind_eq_some_iff.mp ran
      rw [inductionHypothesis (preserved state label next holds taken) tail,
        exact state label next holds taken, and_assoc]
      apply and_congr_right
      intro _
      change _ ↔ condition state label ∧
        ∀ next, system.step state label = some next → system.Along condition next rest
      apply and_congr_right
      intro _
      constructor
      · intro along other same
        obtain rfl : next = other := Option.some.inj (taken.symm.trans same)
        exact along
      · intro along
        exact along next taken

/-! ### Schedules -/

variable (system)

/-- What the scheduler's choice of a label does: a step, or nothing. -/
def advance (state : State) (label : Label) : State := (system.step state label).getD state

/-- The states that a schedule passes through. -/
def trace (schedule : Nat → Label) (start : State) : Nat → State
  | 0 => start
  | time + 1 => system.advance (trace schedule start time) (schedule time)

/-- Every label is chosen again and again. -/
def Fair (schedule : Nat → Label) : Prop := ∀ label time, ∃ later ≥ time, schedule later = label

variable {system}

theorem run_append (state : State) (first second : List Label) :
    system.run state (first ++ second) =
      (system.run state first).bind fun middle => system.run middle second := by
  induction first generalizing state with
  | nil => rfl
  | cons label rest inductionHypothesis =>
      rw [List.cons_append, run, run]
      cases system.step state label with
      | none => rfl
      | some next => exact inductionHypothesis next

theorem run_singleton (state : State) (label : Label) :
    system.run state [label] = system.step state label := by
  simp [run]

/-- A reachable state is the last one of some run. -/
theorem Reachable.exists_run {last : State} (reached : system.Reachable last) :
    ∃ start labels, system.initial start ∧ system.run start labels = some last := by
  induction reached with
  | @initial state start => exact ⟨state, [], start, rfl⟩
  | @step state next label _ _ taken inductionHypothesis =>
      obtain ⟨start, labels, initially, ran⟩ := inductionHypothesis
      refine ⟨start, labels ++ [label], initially, ?_⟩
      rw [run_append, ran, Option.bind_some, run_cons_of_step system [] taken]
      rfl

/-- A schedule that begins with the labels of a run passes through its last state. -/
theorem trace_of_run {schedule : Nat → Label} {state last : State} {labels : List Label}
    (begins : ∀ time, ∀ label ∈ labels[time]?, schedule time = label)
    (ran : system.run state labels = some last) :
    system.trace schedule state labels.length = last := by
  induction labels using List.reverseRecOn generalizing last with
  | nil => exact Option.some.inj ran
  | append_singleton labels label inductionHypothesis =>
      rw [run_append] at ran
      rcases Option.bind_eq_some_iff.mp ran with ⟨middle, first, taken⟩
      have before : system.trace schedule state labels.length = middle := by
        apply inductionHypothesis _ first
        intro time earlier isEarlier
        apply begins time earlier
        have inside : time < labels.length := (List.getElem?_eq_some_iff.mp isEarlier).1
        rw [List.getElem?_append_left inside]
        exact isEarlier
      have chosen : schedule labels.length = label := by
        apply begins
        rw [List.getElem?_concat_length]
        exact rfl
      have steps : system.step middle label = some last := by
        simpa [run] using taken
      rw [List.length_append, List.length_singleton, trace, before, chosen,
        TransitionSystem.advance, steps]
      rfl

theorem advance_of_step {state next : State} {label : Label}
    (taken : system.step state label = some next) : system.advance state label = next := by
  rw [TransitionSystem.advance, taken]
  rfl

theorem Reachable.advance {state : State} (before : system.Reachable state) (label : Label) :
    system.Reachable (system.advance state label) := by
  unfold TransitionSystem.advance
  cases taken : system.step state label with
  | none => exact before
  | some next => exact before.next taken

theorem Reachable.trace {start : State} (before : system.Reachable start)
    (schedule : Nat → Label) (time : Nat) : system.Reachable (system.trace schedule start time) := by
  induction time with
  | zero => exact before
  | succ time inductionHypothesis => exact inductionHypothesis.advance _

/-- While the state stays as it is, a fair schedule gets to any given label. -/
private theorem eventually_smaller {property : State → Prop} {rank : State → Nat}
    {schedule : Nat → Label} {start : State}
    (along : ∀ time, property (system.trace schedule start time))
    (descends : ∀ state label, property state →
      system.advance state label = state ∨ rank (system.advance state label) < rank state)
    (label : Label) (time : Nat)
    (helpful : rank (system.advance (system.trace schedule start time) label) <
      rank (system.trace schedule start time))
    (gap : Nat) (chosen : schedule (time + gap) = label) :
    ∃ later > time, rank (system.trace schedule start later) <
      rank (system.trace schedule start time) := by
  induction gap generalizing time with
  | zero =>
      refine ⟨time + 1, Nat.lt_succ_self _, ?_⟩
      change rank (system.advance _ (schedule time)) < _
      rw [Nat.add_zero] at chosen
      rw [chosen]
      exact helpful
  | succ gap inductionHypothesis =>
      rcases descends _ (schedule time) (along time) with same | smaller
      · have stays : system.trace schedule start (time + 1) = system.trace schedule start time := same
        obtain ⟨later, after, below⟩ := inductionHypothesis (time + 1)
          (by rw [stays]; exact helpful) (by rw [← chosen]; congr 1; omega)
        exact ⟨later, by omega, by rw [stays] at below; exact below⟩
      · exact ⟨time + 1, Nat.lt_succ_self _, smaller⟩

/-- If every label either leaves the state alone or lowers its rank, and away
from the goal some label lowers it, then a fair schedule gets to the goal. -/
theorem Fair.eventually {property goal : State → Prop} {rank : State → Nat}
    {schedule : Nat → Label} (fair : Fair schedule) {start : State}
    (holds : property start)
    (preserved : ∀ state label, property state → property (system.advance state label))
    (descends : ∀ state label, property state →
      system.advance state label = state ∨ rank (system.advance state label) < rank state)
    (helpful : ∀ state, property state → ¬ goal state →
      ∃ label, rank (system.advance state label) < rank state) :
    ∃ time, goal (system.trace schedule start time) := by
  have along : ∀ time, property (system.trace schedule start time) := by
    intro time
    induction time with
    | zero => exact holds
    | succ time inductionHypothesis => exact preserved _ _ inductionHypothesis
  by_contra never
  have never : ∀ time, ¬ goal (system.trace schedule start time) := fun time reached =>
    never ⟨time, reached⟩
  -- the rank along the schedule would descend for ever
  have bounded : ∀ bound time, rank (system.trace schedule start time) < bound → False := by
    intro bound
    induction bound with
    | zero => intro time below; exact absurd below (Nat.not_lt_zero _)
    | succ bound inductionHypothesis =>
        intro time below
        obtain ⟨label, smaller⟩ := helpful _ (along time) (never time)
        obtain ⟨later, notBefore, chosen⟩ := fair label time
        obtain ⟨next, _, lower⟩ := eventually_smaller along descends label time smaller
          (later - time) (by rw [← chosen]; congr 1; omega)
        exact inductionHypothesis next (by omega)
  exact bounded _ 0 (Nat.lt_succ_self _)

end TransitionSystem

end LicensingServer.Foundations
