/-
TelemetryControl.Transcript — what of its own reports an agent lets through.

The agent's reports go through the loggers that it controls, so each is
judged by the levels and overrides of its moment. An apply reports every
level just before it changes it, and all its reports still see the
overrides of the snapshot before. The reports that close a cycle see what
the cycle has put in force.
-/
import TelemetryControl.Gate
import TelemetryControl.Notice

namespace TelemetryControl

namespace Notice

/-- Whether a report comes after the overrides of its cycle are in force. -/
def closesCycle : Notice → Bool
  | ratioRejected _ _ => true
  | snapshotApplied _ _ _ _ _ => true
  | cycleFailed _ => true
  | _ => false

end Notice

/-- A pipeline after the change that a report announces. -/
def Pipeline.announced (p : Pipeline) : Notice → Pipeline
  | .levelInstalled name _ installed => { p with tree := p.tree.setNative name (some installed) }
  | .levelRestored name level => { p with tree := p.tree.setNative name level }
  | _ => p

/-- The events that reached the console and the stream for export, in order. -/
structure Transcript where
  console : List Event
  stream : List Event
deriving DecidableEq, Repr

namespace Transcript

def empty : Transcript := ⟨[], []⟩

/-- The transcript after a report, judged by a pipeline. -/
def record (t : Transcript) (p : Pipeline) (n : Notice) : Transcript :=
  let e := n.event
  ⟨if p.consolePermits e.target e.level then t.console ++ [e] else t.console,
    if p.exportPermits e.target e.level false then t.stream ++ [e] else t.stream⟩

/-- The transcript after the reports of a step, given the pipelines before and
after it. -/
def recordStep (t : Transcript) (before after : Pipeline) (notices : List Notice) : Transcript :=
  (notices.foldl (fun (s : Pipeline × Transcript) n =>
    let p := if n.closesCycle then after else s.1
    (p.announced n, s.2.record p n)) (before, t)).2

end Transcript

end TelemetryControl
