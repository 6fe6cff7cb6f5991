import Mathlib.Tactic.Common

/-!
Owns straight-line programs: lists of statements, each of which changes a state
or stops with an error, their execution, and what a property of the result says
about the statements that remain.

Does not own any particular statements.
-/

set_option autoImplicit false

namespace LicensingServer.Foundations

universe u v w

/-- A computation that returns has returned at its first step. -/
theorem except_bind_ok {Error : Type u} {First : Type v} {Result : Type w}
    {first : Except Error First} {next : First → Except Error Result} {result : Result}
    (done : first.bind next = .ok result) :
    ∃ value, first = .ok value ∧ next value = .ok result := by
  cases first with
  | error error => cases done
  | ok value => exact ⟨value, rfl, done⟩

namespace StraightLine

variable {Statement : Type u} {State : Type v} {Error : Type w}
variable (effect : Statement → State → Except Error State)

/-- Execute a list of statements in order, up to the first error. -/
def execute : List Statement → State → Except Error State
  | [], state => .ok state
  | statement :: rest, state =>
      match effect statement state with
      | .ok next => execute rest next
      | .error error => .error error

@[simp] theorem execute_nil (state : State) : execute effect [] state = .ok state := rfl

theorem execute_cons_ok {statement : Statement} {state next : State} (rest : List Statement)
    (done : effect statement state = .ok next) :
    execute effect (statement :: rest) state = execute effect rest next := by
  rw [execute, done]

theorem execute_cons_error {statement : Statement} {state : State} {error : Error}
    (rest : List Statement) (stopped : effect statement state = .error error) :
    execute effect (statement :: rest) state = .error error := by
  rw [execute, stopped]

theorem execute_append (left right : List Statement) {state next : State}
    (done : execute effect left state = .ok next) :
    execute effect (left ++ right) state = execute effect right next := by
  induction left generalizing state with
  | nil =>
      obtain rfl : state = next := Except.ok.inj done
      rfl
  | cons statement rest inductionHypothesis =>
      cases result : effect statement state with
      | error error => rw [execute_cons_error effect rest result] at done; cases done
      | ok middle =>
          rw [execute_cons_ok effect rest result] at done
          rw [List.cons_append, execute_cons_ok effect _ result, inductionHypothesis done]

theorem execute_concat {statement : Statement} {state middle next : State}
    {program : List Statement} (before : execute effect program state = .ok middle)
    (done : effect statement middle = .ok next) :
    execute effect (program ++ [statement]) state = .ok next := by
  rw [execute_append effect program [statement] before, execute_cons_ok effect [] done, execute_nil]

/-- No statement of a program fails on its way to a result. -/
theorem execute_split_ok {left right : List Statement} {statement : Statement}
    {state middle last : State} (before : execute effect left state = .ok middle)
    (done : execute effect (left ++ statement :: right) state = .ok last) :
    ∃ next, effect statement middle = .ok next := by
  rw [execute_append effect left (statement :: right) before] at done
  cases result : effect statement middle with
  | error error => rw [execute_cons_error effect right result] at done; cases done
  | ok next => exact ⟨next, rfl⟩

/-- A program that returns has returned from its front. -/
theorem execute_append_ok {left right : List Statement} {state last : State}
    (done : execute effect (left ++ right) state = .ok last) :
    ∃ middle, execute effect left state = .ok middle ∧ execute effect right middle = .ok last := by
  induction left generalizing state with
  | nil => exact ⟨state, rfl, done⟩
  | cons statement rest inductionHypothesis =>
      rw [List.cons_append] at done
      cases result : effect statement state with
      | error error =>
          rw [execute_cons_error effect _ result] at done
          cases done
      | ok next =>
          rw [execute_cons_ok effect _ result] at done ⊢
          exact inductionHypothesis done

/-! ### What a stopped program leaves behind -/

/-- Execute a list of statements in order, keeping the state in which the first
error was raised. -/
def leave : List Statement → State → State × Except Error Unit
  | [], state => (state, .ok ())
  | statement :: rest, state =>
      match effect statement state with
      | .ok next => leave rest next
      | .error error => (state, .error error)

theorem leave_cons_ok {statement : Statement} {state next : State} (rest : List Statement)
    (done : effect statement state = .ok next) :
    leave effect (statement :: rest) state = leave effect rest next := by
  rw [leave, done]

theorem leave_cons_error {statement : Statement} {state : State} {error : Error}
    (rest : List Statement) (stopped : effect statement state = .error error) :
    leave effect (statement :: rest) state = (state, .error error) := by
  rw [leave, stopped]

theorem leave_append (left right : List Statement) {state next : State}
    (done : execute effect left state = .ok next) :
    leave effect (left ++ right) state = leave effect right next := by
  induction left generalizing state with
  | nil =>
      cases done
      rfl
  | cons statement rest inductionHypothesis =>
      cases result : effect statement state with
      | error error =>
          rw [execute_cons_error effect rest result] at done
          cases done
      | ok middle =>
          rw [execute_cons_ok effect rest result] at done
          rw [List.cons_append, leave_cons_ok effect _ result, inductionHypothesis done]

/-- The error that a program stops with is one of its statements' errors. -/
theorem leave_error {program : List Statement} {state last : State} {error : Error}
    (stopped : leave effect program state = (last, .error error)) :
    ∃ statement ∈ program, effect statement last = .error error := by
  induction program generalizing state with
  | nil => cases stopped
  | cons statement rest inductionHypothesis =>
      cases result : effect statement state with
      | error raised =>
          rw [leave_cons_error effect rest result] at stopped
          cases stopped
          exact ⟨statement, List.mem_cons_self, result⟩
      | ok next =>
          rw [leave_cons_ok effect rest result] at stopped
          rcases inductionHypothesis stopped with ⟨later, member, raised⟩
          exact ⟨later, List.mem_cons_of_mem _ member, raised⟩

/-- The two ways to execute agree on how the program ends. -/
theorem execute_eq_leave (program : List Statement) (state : State) :
    execute effect program state =
      (leave effect program state).2.map fun _ => (leave effect program state).1 := by
  induction program generalizing state with
  | nil => rfl
  | cons statement rest inductionHypothesis =>
      cases result : effect statement state with
      | error error =>
          rw [execute_cons_error effect rest result, leave_cons_error effect rest result]
          rfl
      | ok next =>
          rw [execute_cons_ok effect rest result, leave_cons_ok effect rest result]
          exact inductionHypothesis next

end StraightLine

end LicensingServer.Foundations
