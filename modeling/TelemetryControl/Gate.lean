/-
TelemetryControl.Gate — which records may be exported.

Three rules, in order: a record below the threshold asked for its logger is
rejected; a record at or below the sampling threshold is admitted only in a
sampled trace; every other record is admitted.
-/
import TelemetryControl.Registry

namespace TelemetryControl

namespace Decision

/-- Whether a record of this severity is admitted. -/
def admits (d : Decision) (s : Severity) (sampled : Bool) : Bool :=
  d.severity.all (fun want => decide (want ≤ s)) &&
    (match d.samplingSeverity with
      | some held => if s ≤ held then sampled else true
      | none => true)

end Decision

/-- The filter installed before local sinks. -/
inductive LocalFilter where
  /-- No filter: every record passes. -/
  | passAll
  /-- The registry's own: the thresholds of its overrides. -/
  | overrides
  /-- Records of the loggers whose names start alike, from a severity upwards. -/
  | named (start : String) (least : Severity)
deriving DecidableEq, Repr, Inhabited

/-- Whether an installed filter lets a record through. -/
def LocalFilter.permits (f : LocalFilter) (r : Registry) (name : String) (s : Severity) : Bool :=
  match f with
  | .passAll => true
  | .overrides => r.permits name s
  | .named start least => start.toList.isPrefixOf name.toList && decide (least ≤ s)

/-- The loggers of a process, the registry over them, and the filter that
stands before local sinks. -/
structure Pipeline where
  tree : LoggerTree
  registry : Registry
  filter : LocalFilter
deriving DecidableEq, Repr, Inhabited

namespace Pipeline

/-- A registry made on a tree, its filter installed. -/
def create (tree : LoggerTree) : Pipeline :=
  ⟨tree, Registry.create tree, .overrides⟩

/-- A tree that no registry was made on yet. -/
def bare (tree : LoggerTree) : Pipeline :=
  ⟨tree, default, .passAll⟩

/-- The pipeline after a snapshot. -/
def apply (p : Pipeline) (snapshot : Snapshot) : Pipeline :=
  let a := p.registry.apply p.tree snapshot
  { p with tree := a.backend, registry := a.registry }

/-- Whether the gate admits a record for export. -/
def admits (p : Pipeline) (name : String) (s : Severity) (sampled : Bool) : Bool :=
  (p.registry.decision name).admits s sampled

/-- Whether the installed filter lets a record through. -/
def passesFilter (p : Pipeline) (name : String) (s : Severity) : Bool :=
  p.filter.permits p.registry name s

/-- Whether a record reaches a sink. -/
def accepts (p : Pipeline) (name : String) (s : Severity) (sink : SinkKind) : Bool :=
  p.tree.accepts p.passesFilter name s sink

/-- Whether the console shows an event of a module. -/
def consolePermits (p : Pipeline) (target : String) (s : Severity) : Bool :=
  p.accepts (LoggerName.ofTarget target) s .localSink

/-- Whether an event of a module is exported. -/
def exportPermits (p : Pipeline) (target : String) (s : Severity) (sampled : Bool) : Bool :=
  let name := LoggerName.ofTarget target
  p.accepts name s .exportSink && p.admits name s sampled

end Pipeline

end TelemetryControl
