import LicensingServer.Foundations.TransitionSystem

/-!
Owns two systems that run under one schedule: states that are alike stay alike
along steps that are permitted, so that an observer who sees no difference
between them sees none between the runs.

Does not own what makes two states alike.
-/

set_option autoImplicit false

namespace LicensingServer.Foundations

universe u v w

namespace TransitionSystem

variable {State : Type u} {Label : Type v} {View : Type w}

/-- Permitted choices keep states alike, also where only one of them moves. -/
structure Unwinding (system other : TransitionSystem State Label)
    (permitted : State → Label → Prop) (alike : State → State → Prop) : Prop where
  advance : ∀ state state' label, alike state state' → permitted state label →
    alike (system.advance state label) (other.advance state' label)

variable {system other : TransitionSystem State Label} {permitted : State → Label → Prop}
  {alike : State → State → Prop}

/-- Where both move or neither does, only the moves are to be looked at. -/
theorem alike_advance {state state' : State} {label : Label} (before : alike state state')
    (steps : Option.Rel alike (system.step state label) (other.step state' label)) :
    alike (system.advance state label) (other.advance state' label) := by
  unfold TransitionSystem.advance
  generalize system.step state label = step at steps
  generalize other.step state' label = step' at steps
  cases steps with
  | some after => exact after
  | none => exact before

/-- Runs from states that are alike stay so as far as every step is permitted. -/
theorem Unwinding.trace (unwinding : Unwinding system other permitted alike)
    {start start' : State} (begins : alike start start') (schedule : Nat → Label) {time : Nat}
    (met : ∀ earlier < time, permitted (system.trace schedule start earlier) (schedule earlier)) :
    alike (system.trace schedule start time) (other.trace schedule start' time) := by
  induction time with
  | zero => exact begins
  | succ time inductionHypothesis =>
      apply unwinding.advance _ _ (schedule time)
      · apply inductionHypothesis
        intro earlier isEarlier
        exact met earlier (Nat.lt_succ_of_lt isEarlier)
      · exact met time (Nat.lt_succ_self time)

/-- The observer sees the same in both runs up to a time. -/
def SameView (view : State → View) (system other : TransitionSystem State Label)
    (schedule : Nat → Label) (start start' : State) (time : Nat) : Prop :=
  ∀ earlier ≤ time,
    view (system.trace schedule start earlier) = view (other.trace schedule start' earlier)

/-- What states that are alike show, permitted runs show. -/
theorem Unwinding.sameView (unwinding : Unwinding system other permitted alike)
    {view : State → View} (shows : ∀ state state', alike state state' → view state = view state')
    {start start' : State} (begins : alike start start') (schedule : Nat → Label) {time : Nat}
    (met : ∀ earlier < time, permitted (system.trace schedule start earlier) (schedule earlier)) :
    SameView view system other schedule start start' time := by
  intro earlier notLater
  apply shows
  apply unwinding.trace begins schedule
  intro before isBefore
  exact met before (Nat.lt_of_lt_of_le isBefore notLater)

/-- What every step preserves holds all along a run. -/
theorem trace_invariant {property : State → Prop}
    (preserved : ∀ state label next, property state → system.step state label = some next →
      property next) {start : State} (begins : property start) (schedule : Nat → Label)
    (time : Nat) : property (system.trace schedule start time) := by
  induction time with
  | zero => exact begins
  | succ time inductionHypothesis =>
      show property (system.advance _ _)
      unfold TransitionSystem.advance
      cases taken : system.step (system.trace schedule start time) (schedule time) with
      | none => exact inductionHypothesis
      | some next => exact preserved _ _ _ inductionHypothesis taken

end TransitionSystem

end LicensingServer.Foundations
