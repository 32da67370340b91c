/-
TelemetryControl.TraceScope — the sampled flag of the current trace.

Whether the trace that code runs in is sampled is kept in two places. A
task scope sets the flag for all that runs inside it; it wins while it
lasts. A guard sets a flag for its thread and, when dropped, puts back the
flag that it found when it was made, whatever has happened since. Where
neither says anything, the trace is not sampled.
-/

namespace TelemetryControl

/-- What a program can do with the sampled flag. -/
inductive TraceStep where
  /-- Makes a guard under a name. -/
  | enter (guard : String) (sampled : Bool)
  /-- Drops the guard of a name. -/
  | leave (guard : String)
  /-- Reads the flag, with or without giving way to other tasks. -/
  | read
  /-- Reads the flag on another thread. -/
  | readElsewhere
  /-- Runs steps inside a task scope. -/
  | scope (sampled : Bool) (body : List TraceStep)
deriving Repr, Inhabited

/-- What a step answers beside the flag after it. -/
inductive TraceAnswer where
  | nothing
  | flag (value : Bool)
  | inside (answers : List (Bool × TraceAnswer))
deriving Repr

/-- The flag of a thread and its live guards, each with the flag it puts back. -/
structure TraceState where
  thread : Option Bool
  guards : List (String × Option Bool)
deriving DecidableEq, Repr, Inhabited

namespace TraceState

/-- A thread without a flag. -/
def initial : TraceState := ⟨none, []⟩

/-- The flag that code reads: the task scope's, or the thread's, or unsampled. -/
def sampled (task : Option Bool) (t : TraceState) : Bool :=
  (task.or t.thread).getD false

/-- Drops the guard of a name, if there is one. -/
def leave (t : TraceState) (guard : String) : TraceState :=
  match t.guards.lookup guard with
  | none => t
  | some previous => ⟨previous, t.guards.filter (fun g => g.1 != guard)⟩

/-- Makes a guard. One of the same name is dropped once the new one is made. -/
def enter (t : TraceState) (guard : String) (sampled : Bool) : TraceState :=
  let entered : TraceState := ⟨some sampled, t.guards⟩
  let cleared := entered.leave guard
  ⟨cleared.thread, (guard, t.thread) :: cleared.guards⟩

end TraceState

namespace TraceStep

mutual

/-- Runs one step. -/
def run (t : TraceState) : TraceStep → TraceState × TraceAnswer
  | enter guard sampled => (t.enter guard sampled, .nothing)
  | leave guard => (t.leave guard, .flag (t.guards.lookup guard).isSome)
  | read => (t, .nothing)
  | readElsewhere => (t, .flag (TraceState.initial.sampled none))
  | scope sampled body =>
    let (t', answers) := runAll (some sampled) t body
    (t', .inside answers)

/-- Runs steps in order, in a task scope if any; each answers with the flag
after it. -/
def runAll (task : Option Bool) (t : TraceState) :
    List TraceStep → TraceState × List (Bool × TraceAnswer)
  | [] => (t, [])
  | step :: rest =>
    let (t', answer) := run t step
    let (t'', answers) := runAll task t' rest
    (t'', (t'.sampled task, answer) :: answers)

end

end TraceStep

end TelemetryControl
