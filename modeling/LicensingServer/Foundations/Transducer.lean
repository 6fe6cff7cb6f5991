import Mathlib.Data.List.Basic
import Mathlib.Tactic.Common

/-!
Owns machines that read a list of inputs one by one and emit outputs: runs,
their behaviour on concatenated inputs, and the rule that bounds what a run
emits by an invariant of the state and the input still to come.

Does not own any particular machine.
-/

set_option autoImplicit false

namespace LicensingServer.Foundations

universe u v w

structure Transducer (State : Type u) (Input : Type v) (Output : Type w) where
  next : State → Input → State
  emit : State → Input → List Output

namespace Transducer

variable {State : Type u} {Input : Type v} {Output : Type w}
variable (machine : Transducer State Input Output)

/-- The state after a list of inputs. -/
def after : State → List Input → State
  | state, [] => state
  | state, input :: rest => after (machine.next state input) rest

/-- Everything emitted over a list of inputs. -/
def outputs : State → List Input → List Output
  | _, [] => []
  | state, input :: rest => machine.emit state input ++ outputs (machine.next state input) rest

/-- The condition holds at every input that is read. -/
def Along (condition : State → Input → Prop) : State → List Input → Prop
  | _, [] => True
  | state, input :: rest => condition state input ∧ Along condition (machine.next state input) rest

instance decidableAlong (condition : State → Input → Prop)
    [∀ state input, Decidable (condition state input)] :
    ∀ (state : State) (inputs : List Input), Decidable (machine.Along condition state inputs)
  | _, [] => .isTrue trivial
  | state, input :: rest =>
      have := decidableAlong condition (machine.next state input) rest
      inferInstanceAs (Decidable (_ ∧ _))

@[simp] theorem after_nil (state : State) : machine.after state [] = state := rfl

@[simp] theorem outputs_nil (state : State) : machine.outputs state [] = [] := rfl

@[simp] theorem after_cons (state : State) (input : Input) (rest : List Input) :
    machine.after state (input :: rest) = machine.after (machine.next state input) rest := rfl

@[simp] theorem outputs_cons (state : State) (input : Input) (rest : List Input) :
    machine.outputs state (input :: rest) =
      machine.emit state input ++ machine.outputs (machine.next state input) rest := rfl

theorem after_append (state : State) (left right : List Input) :
    machine.after state (left ++ right) = machine.after (machine.after state left) right := by
  induction left generalizing state with
  | nil => rfl
  | cons input rest inductionHypothesis => exact inductionHypothesis _

theorem outputs_append (state : State) (left right : List Input) :
    machine.outputs state (left ++ right) =
      machine.outputs state left ++ machine.outputs (machine.after state left) right := by
  induction left generalizing state with
  | nil => rfl
  | cons input rest inductionHypothesis =>
      simp only [List.cons_append, outputs_cons, after_cons, inductionHypothesis, List.append_assoc]

variable {machine}

/-- A state that no input changes and that emits nothing ends the run. -/
theorem stopped (machine : Transducer State Input Output) (state : State)
    (stays : ∀ input, machine.next state input = state)
    (silent : ∀ input, machine.emit state input = []) (inputs : List Input) :
    machine.after state inputs = state ∧ machine.outputs state inputs = [] := by
  induction inputs with
  | nil => exact ⟨rfl, rfl⟩
  | cons input rest inductionHypothesis =>
      rw [after_cons, outputs_cons, stays, silent]
      exact inductionHypothesis

/-- An invariant of the state and the input still to come, kept by every input
that meets the condition, bounds what is emitted. -/
theorem outputs_all {invariant : State → List Input → Prop}
    {condition : State → Input → Prop} {good : Output → Prop}
    (preserved : ∀ state input rest, invariant state (input :: rest) → condition state input →
      invariant (machine.next state input) rest)
    (emits : ∀ state input rest, invariant state (input :: rest) → condition state input →
      ∀ output ∈ machine.emit state input, good output)
    {state : State} {inputs : List Input} (holds : invariant state inputs)
    (along : machine.Along condition state inputs) :
    ∀ output ∈ machine.outputs state inputs, good output := by
  induction inputs generalizing state with
  | nil => simp
  | cons input rest inductionHypothesis =>
      intro output member
      rcases List.mem_append.mp member with now | later
      · exact emits state input rest holds along.1 output now
      · exact inductionHypothesis (preserved state input rest holds along.1) along.2 output later

end Transducer

end LicensingServer.Foundations
