/-
TelemetryControl.Proofs.TraceScope.Scopes — what task scopes leave behind.

A task scope sets no flag of the thread, and guards set no flag of the task. So
the two never meet: inside a scope the flag is the scope's, whatever guards are
made or dropped there (`governed_runAll`), and the thread goes through the
same states as if there were no scopes at all (`runAll_fst`).

Scopes nest to any depth, so both are inductions on the steps and the bodies
inside them at once.
-/
import TelemetryControl.Proofs.TraceScope.Guards

namespace TelemetryControl

namespace TraceStep

mutual

/-- What a step does to guards, taken out of the scopes it happens in. -/
def guardSteps : TraceStep → List TraceStep
  | enter guard sampled => [enter guard sampled]
  | leave guard => [leave guard]
  | scope _ body => allGuardSteps body
  | _ => []

/-- The makings and drops of guards among steps, in the order in which they
happen, taken out of all scopes. -/
def allGuardSteps : List TraceStep → List TraceStep
  | [] => []
  | step :: rest => guardSteps step ++ allGuardSteps rest

end

/-- Steps and what they answer where a flag is in force: it is read after each
of them, an inner scope that has just ended among them, and inside an inner
scope that scope's own flag is in force. -/
inductive Governed : Bool → List TraceStep → List (Bool × TraceAnswer) → Prop
  | nil {flag : Bool} : Governed flag [] []
  | scope {flag inner : Bool} {body rest : List TraceStep}
      {inside others : List (Bool × TraceAnswer)} (within : Governed inner body inside)
      (further : Governed flag rest others) :
      Governed flag (scope inner body :: rest) ((flag, .inside inside) :: others)
  | single {flag : Bool} {step : TraceStep} {rest : List TraceStep} {answer : TraceAnswer}
      {others : List (Bool × TraceAnswer)} (noScope : ∀ inner body, step ≠ scope inner body)
      (further : Governed flag rest others) :
      Governed flag (step :: rest) ((flag, answer) :: others)

/-! ## 1. The flag inside a scope -/

/-- The flag of a task wins over any flag of the thread, so whatever happens inside a
scope, the scope's flag is in force there. -/
theorem governed_runAll (flag : Bool) (t : TraceState) :
    (steps : List TraceStep) → Governed flag steps (runAll (some flag) t steps).2
  | [] => .nil
  | scope inner body :: rest =>
    .scope (governed_runAll inner t body) (governed_runAll flag _ rest)
  | enter _ _ :: rest => .single (by simp) (governed_runAll flag _ rest)
  | leave _ :: rest => .single (by simp) (governed_runAll flag _ rest)
  | read :: rest => .single (by simp) (governed_runAll flag _ rest)
  | readElsewhere :: rest => .single (by simp) (governed_runAll flag _ rest)

/-! ## 2. The thread after a scope -/

mutual

theorem run_fst (t : TraceState) (step : TraceStep) :
    (run t step).1 = t.after (guardSteps step) := by
  cases step with
  | enter guard sampled => rfl
  | leave guard => rfl
  | read => rfl
  | readElsewhere => rfl
  | scope flag body => exact runAll_fst (some flag) t body

/-- Steps change the thread by their guards alone, in a scope or outside of one. -/
theorem runAll_fst (task : Option Bool) (t : TraceState) (steps : List TraceStep) :
    (runAll task t steps).1 = t.after (allGuardSteps steps) := by
  cases steps with
  | nil => rfl
  | cons step rest =>
    show (runAll task (run t step).1 rest).1 = t.after (guardSteps step ++ allGuardSteps rest)
    rw [runAll_fst task _ rest, run_fst t step, TraceState.after_append]

end

/-- Nothing but makings and drops of guards is left of steps out of their scopes. -/
theorem guard?_ne_none_of_mem (steps : List TraceStep) :
    ∀ s ∈ allGuardSteps steps, s.guard? ≠ none := by
  have single (step : TraceStep) (guards : step.guard? ≠ none) : ∀ s ∈ [step], s.guard? ≠ none :=
    fun s member => List.mem_singleton.mp member ▸ guards
  match steps with
  | [] => simp [allGuardSteps]
  | scope _ body :: rest =>
    exact List.forall_mem_append.mpr ⟨guard?_ne_none_of_mem body, guard?_ne_none_of_mem rest⟩
  | enter guard sampled :: rest =>
    exact List.forall_mem_append.mpr
      ⟨single (.enter guard sampled) (by simp [guard?]), guard?_ne_none_of_mem rest⟩
  | leave guard :: rest =>
    exact List.forall_mem_append.mpr
      ⟨single (.leave guard) (by simp [guard?]), guard?_ne_none_of_mem rest⟩
  | read :: rest => exact guard?_ne_none_of_mem rest
  | readElsewhere :: rest => exact guard?_ne_none_of_mem rest

/-- **A task scope wins inside and leaves nothing behind.** Whatever the thread's
flag is and whichever guards are live when a scope starts, its flag is in force
for every step of its body, and again after every scope inside it, at any depth.
Once it has ended, the thread is where the same guards, made and dropped in the
same order without any scope, would have left it, and so is whatever is read
from then on, even after guards from inside the scope are dropped. -/
theorem scope_wins_and_leaves_nothing (t : TraceState) (flag : Bool) (body : List TraceStep) :
    let guards := allGuardSteps body
    (∀ s ∈ guards, s.guard? ≠ none) ∧
    (∃ inside, Governed flag body inside ∧
      runAll none t [scope flag body] =
        (t.after guards, [((t.after guards).sampled none, .inside inside)])) ∧
    ∀ rest, (t.after (scope flag body :: rest)).sampled none =
      (t.after (guards ++ rest)).sampled none := by
  intro guards
  have ended : (run t (scope flag body)).1 = t.after guards := run_fst t (scope flag body)
  refine ⟨guard?_ne_none_of_mem body, ⟨_, governed_runAll flag t body, ?_⟩, fun rest => ?_⟩
  · rw [← ended]
    rfl
  · rw [TraceState.after_cons, ended, TraceState.after_append]

/-- A guard made in a scope and dropped after it, around a scope of its own. -/
example :
    (runAll none .initial
      [scope true [enter "a" false, scope false [read], read], read, leave "a"]).2.map Prod.fst =
    [false, false, false] := rfl

end TraceStep

end TelemetryControl
