import LicensingServer.Foundations.TransitionSystem

/-!
Owns schedules that are fair to some labels only, and how such a schedule gets
to a goal: by a rank that no label raises and that one of these labels lowers.

Does not own schedules that are fair to every label, nor any particular system.
-/

set_option autoImplicit false

namespace LicensingServer.Foundations

universe u v

namespace TransitionSystem

variable {State : Type u} {Label : Type v} {system : TransitionSystem State Label}

/-- Each of these labels is chosen again and again. -/
def FairTo (chosen : Label → Prop) (schedule : Nat → Label) : Prop :=
  ∀ label, chosen label → ∀ time, ∃ later ≥ time, schedule later = label

/-- A way from the states with a property to a goal. Away from the goal every
label keeps the property, or gets there; it lowers the rank, or leaves it with
the label that is to come; and that label lowers it. -/
structure Approach (system : TransitionSystem State Label) (chosen : Label → Prop)
    (property goal : State → Prop) where
  rank : State → Nat
  helpful : State → Label
  isChosen : ∀ state, property state → ¬ goal state → chosen (helpful state)
  keeps : ∀ state label, property state → ¬ goal state →
    goal (system.advance state label) ∨
      (property (system.advance state label) ∧
        (rank (system.advance state label) < rank state ∨
          (rank (system.advance state label) = rank state ∧
            helpful (system.advance state label) = helpful state)))
  helps : ∀ state, property state → ¬ goal state →
    goal (system.advance state (helpful state)) ∨
      rank (system.advance state (helpful state)) < rank state

namespace Approach

variable {chosen : Label → Prop} {property goal : State → Prop} {schedule : Nat → Label}
  {start : State}

/-- Until the helpful label has its turn, the rank stays or the goal is near. -/
private theorem comes_closer (approach : Approach system chosen property goal) (time gap : Nat)
    (holds : property (system.trace schedule start time))
    (away : ¬ goal (system.trace schedule start time))
    (turn : schedule (time + gap) = approach.helpful (system.trace schedule start time)) :
    ∃ later > time, goal (system.trace schedule start later) ∨
      (property (system.trace schedule start later) ∧
        approach.rank (system.trace schedule start later) <
          approach.rank (system.trace schedule start time)) := by
  have next := approach.keeps _ (schedule time) holds away
  induction gap generalizing time with
  | zero =>
      refine ⟨time + 1, Nat.lt_succ_self time, ?_⟩
      have helped := approach.helps _ holds away
      rw [Nat.add_zero] at turn
      rw [← turn] at helped
      rcases helped with arrives | lower
      · exact .inl arrives
      · rcases next with arrives | ⟨kept, -⟩
        · exact .inl arrives
        · exact .inr ⟨kept, lower⟩
  | succ gap inductionHypothesis =>
      rcases next with arrives | ⟨kept, lower | ⟨same, sameLabel⟩⟩
      · exact ⟨time + 1, Nat.lt_succ_self time, .inl arrives⟩
      · exact ⟨time + 1, Nat.lt_succ_self time, .inr ⟨kept, lower⟩⟩
      · by_cases arrives : goal (system.trace schedule start (time + 1))
        · exact ⟨time + 1, Nat.lt_succ_self time, .inl arrives⟩
        · have stillToCome : schedule (time + 1 + gap) =
              approach.helpful (system.trace schedule start (time + 1)) := by
            rw [show time + 1 + gap = time + (gap + 1) by omega, turn]
            exact sameLabel.symm
          obtain ⟨later, after, reached⟩ := inductionHypothesis (time + 1) kept arrives stillToCome
            (approach.keeps _ _ kept arrives)
          have sameRank : approach.rank (system.trace schedule start (time + 1)) =
            approach.rank (system.trace schedule start time) := same
          rw [sameRank] at reached
          exact ⟨later, by omega, reached⟩

/-- A schedule that is fair to the chosen labels gets to the goal. -/
theorem eventually (approach : Approach system chosen property goal)
    (fair : FairTo chosen schedule) (time : Nat)
    (holds : property (system.trace schedule start time)) :
    ∃ later ≥ time, goal (system.trace schedule start later) := by
  have bounded : ∀ bound time, property (system.trace schedule start time) →
      approach.rank (system.trace schedule start time) < bound →
      ∃ later ≥ time, goal (system.trace schedule start later) := by
    intro bound
    induction bound with
    | zero =>
        intro time _ below
        exact absurd below (Nat.not_lt_zero _)
    | succ bound inductionHypothesis =>
        intro time holds below
        by_cases arrives : goal (system.trace schedule start time)
        · exact ⟨time, Nat.le_refl time, arrives⟩
        · obtain ⟨turn, notBefore, isTurn⟩ := fair _ (approach.isChosen _ holds arrives) time
          obtain ⟨closer, after, reached | ⟨kept, lower⟩⟩ := approach.comes_closer time
            (turn - time) holds arrives (by rw [← isTurn]; congr 1; omega)
          · exact ⟨closer, by omega, reached⟩
          · obtain ⟨later, notEarlier, reached⟩ := inductionHypothesis closer kept (by omega)
            exact ⟨later, by omega, reached⟩
  exact bounded _ time holds (Nat.lt_succ_self _)

end Approach

/-- What a preorder keeps at every step, it keeps from any time to any later one. -/
theorem trace_mono {related : State → State → Prop} (reflexive : ∀ state, related state state)
    (transitive : ∀ first second third, related first second → related second third →
      related first third)
    (steps : ∀ state label next, system.step state label = some next → related state next)
    (schedule : Nat → Label) (start : State) {time later : Nat} (after : time ≤ later) :
    related (system.trace schedule start time) (system.trace schedule start later) := by
  induction later, after using Nat.le_induction with
  | base => exact reflexive _
  | succ later _ inductionHypothesis =>
      refine transitive _ _ _ inductionHypothesis ?_
      rw [trace, advance]
      cases taken : system.step (system.trace schedule start later) (schedule later) with
      | none => exact reflexive _
      | some next => exact steps _ _ next taken

/-- A count that goes up again from every value below a target reaches it. -/
theorem reaches_count {count : Nat → Nat} {target start : Nat}
    (grows : ∀ time ≥ start, count time < target → ∃ later ≥ time, count time < count later) :
    ∃ later ≥ start, target ≤ count later := by
  have missing : ∀ gap, ∀ time ≥ start, target - count time ≤ gap →
      ∃ later ≥ start, target ≤ count later := by
    intro gap
    induction gap with
    | zero =>
        intro time notBefore none
        exact ⟨time, notBefore, by omega⟩
    | succ gap inductionHypothesis =>
        intro time notBefore within
        by_cases reached : target ≤ count time
        · exact ⟨time, notBefore, reached⟩
        · obtain ⟨next, after, more⟩ := grows time notBefore (by omega)
          exact inductionHypothesis next (by omega) (by omega)
  exact missing _ start (Nat.le_refl start) (Nat.le_refl _)

end TransitionSystem

end LicensingServer.Foundations
