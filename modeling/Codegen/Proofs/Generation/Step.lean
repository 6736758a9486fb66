import Codegen.Generation.Run
import Codegen.Proofs.Log.Saying
import Codegen.Proofs.Stateful
import Mathlib.Order.Defs.Unbundled

/-! The basic steps of a run, relations that a step keeps between the run before it and the run after it,
and what a step comes to. -/

namespace Codegen.Generation

open Codegen.Model

variable {α β : Type}

namespace Step

@[simp] theorem run_lift (outcome : Except Failure α) (run : Run) :
    (lift outcome).run run = (outcome, run) := by
  cases outcome <;> rfl

@[simp] theorem run_outcome (step : Step α) (run : Run) :
    step.outcome.run run = (.ok (step.run run).1, (step.run run).2) := rfl

@[simp] theorem run_ofRouting (routing : Output.Routing α) (run : Run) :
    (ofRouting routing).run run =
      ((routing.run run.desk).1, { run with desk := (routing.run run.desk).2 }) := by
  simp only [ofRouting, Stateful.run_bind, Stateful.run_get]
  rcases routing.run run.desk with ⟨outcome, desk⟩
  simp only [Stateful.run_bind, Stateful.run_set, run_lift]

theorem exists_run_shared (act : Step Unit) (run : Run) :
    ∃ outcome registry context, act.shared.run run =
      (.ok outcome, { run with registry, desk := { run.desk with context } }) :=
  ⟨_, _, _, rfl⟩

end Step

def Run.recording (run : Run) (event : Event) : Run :=
  { run with journal := run.journal ++ [event] }

@[simp] theorem run_record (event : Event) (run : Run) :
    (record event).run run = (.ok (), run.recording event) := rfl

@[simp] theorem run_enter (stage : Stage) (run : Run) :
    (enter stage).run run = (.ok (), { run with stages := run.stages ++ [stage] }) := rfl

@[simp] theorem run_setContext (context : Context) (run : Run) :
    (setContext context).run run = (.ok (), { run with desk := { run.desk with context } }) := rfl

@[simp] theorem run_putContext (name : String) (v : Value) (run : Run) :
    (putContext name v).run run =
      (.ok (),
        { run with desk := { run.desk with context := Table.put name v run.desk.context } }) := rfl

@[simp] theorem run_say (logger : Log.Component) (method : Log.Method) (message : String)
    (run : Run) :
    (say logger method message).run run = (logger.say run.desk.levels method message, run) := by
  simp [say, Stateful.run_bind]

/-! Relations kept by a step, whatever its outcome. -/

/-- Whatever comes of the step, the run after it is related to the run before it. -/
def Step.Keeps (R : Run → Run → Prop) (step : Step α) : Prop :=
  ∀ run, R run (step.run run).2

namespace Step.Keeps

variable {R : Run → Run → Prop}

theorem of_run {step : Step α} (h : step.Keeps R) {run after : Run} {outcome : Except Failure α}
    (hrun : step.run run = (outcome, after)) : R run after :=
  Stateful.Keeps.of_run h hrun

theorem of_idle [Std.Refl R] {step : Step α} (h : ∀ run, (step.run run).2 = run) :
    step.Keeps R :=
  Stateful.Keeps.of_idle h

theorem pure [Std.Refl R] (x : α) : (Pure.pure x : Step α).Keeps R :=
  Stateful.Keeps.pure x

theorem throw [Std.Refl R] (failure : Failure) : (MonadExcept.throw failure : Step α).Keeps R :=
  Stateful.Keeps.throw failure

theorem lift [Std.Refl R] (outcome : Except Failure α) : (Step.lift outcome).Keeps R :=
  of_idle fun run => by rw [run_lift]

theorem get [Std.Refl R] : (MonadState.get : Step Run).Keeps R :=
  Stateful.Keeps.get

theorem say [Std.Refl R] (logger : Log.Component) (method : Log.Method) (message : String) :
    (Generation.say logger method message).Keeps R :=
  of_idle fun run => by rw [run_say]

theorem bind [IsTrans Run R] {step : Step α} {next : α → Step β} (hstep : step.Keeps R)
    (hnext : ∀ x, (next x).Keeps R) : (step >>= next).Keeps R :=
  Stateful.Keeps.bind hstep hnext

theorem outcome {step : Step α} (hstep : step.Keeps R) : step.outcome.Keeps R :=
  hstep

theorem forM [IsPreorder Run R] {step : α → Step Unit} (xs : List α)
    (hstep : ∀ x ∈ xs, (step x).Keeps R) : (xs.forM step).Keeps R :=
  Stateful.Keeps.forM xs hstep

theorem mapM [IsPreorder Run R] {step : α → Step β} (xs : List α)
    (hstep : ∀ x ∈ xs, (step x).Keeps R) : (xs.mapM step).Keeps R :=
  Stateful.Keeps.mapM xs hstep

end Step.Keeps

/-! What a step comes to when nothing stands in the way of the messages that it logs. A message that cannot
be logged ends it early, with a failure that no other cause has. -/

/-- The step comes to the outcome, unless the log refuses a message on the way. -/
def Step.Comes (step : Step α) (run : Run) (outcome : Except Failure α) (after : Run) : Prop :=
  step.run run = (outcome, after) ∨ ∃ fault halted, step.run run = (.error (.markup fault), halted)

namespace Step.Comes

variable {run middle after : Run} {step : Step α} {outcome : Except Failure α}

theorem of_run (h : step.run run = (outcome, after)) : step.Comes run outcome after := .inl h

theorem pure (x : α) (run : Run) : (Pure.pure x : Step α).Comes run (.ok x) run := .inl rfl

theorem bind_comes {next : α → Step β} {x : α} {result : Except Failure β} (hstep : step.Comes run (.ok x) middle)
    (hnext : (next x).Comes middle result after) : (step >>= next).Comes run result after := by
  rcases hstep with hstep | ⟨fault, halted, hstep⟩
  · rw [Comes, Stateful.run_bind_ok hstep]
    exact hnext
  · exact .inr ⟨fault, halted, Stateful.run_bind_error hstep next⟩

theorem bind {next : α → Step β} {x : α} {result : Except Failure β} (hstep : step.run run = (.ok x, middle))
    (hnext : (next x).Comes middle result after) : (step >>= next).Comes run result after :=
  bind_comes (.inl hstep) hnext

theorem say (logger : Log.Component) (method : Log.Method) (message : String) (run : Run) :
    (Generation.say logger method message).Comes run (.ok ()) run := by
  have hrun := run_say logger method message run
  cases hsay : logger.say run.desk.levels method message with
  | ok u => exact .inl (hrun.trans (by rw [hsay]))
  | error failure =>
      obtain ⟨fault, rfl⟩ := Log.say_error hsay
      exact .inr ⟨fault, run, hrun.trans (by rw [hsay])⟩

end Step.Comes

end Codegen.Generation
