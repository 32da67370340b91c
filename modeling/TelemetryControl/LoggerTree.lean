/-
TelemetryControl.LoggerTree — the loggers of the process and their levels.

A tree knows some logger names. Each known logger has a native level of its
own or inherits, and its effective level is that of the first logger in its
lineage with a native level, or else the root's. Registering a name also
registers the names that enclose it. The root is always known and never
loses its level, so every effective level is one that somebody set.
-/
import TelemetryControl.LoggerName
import TelemetryControl.Notice

namespace TelemetryControl

/-- What an apply of overrides needs of a logging framework. -/
class LoggerBackend (β : Type) where
  /-- Every known logger with its effective level. -/
  loggers : β → List (String × Severity)
  /-- The own level of a known logger, none when it inherits. -/
  native? : β → String → Option (Option Severity)
  /-- The level in force for a logger. -/
  effective : β → String → Severity
  /-- Replaces the own level of a known logger. -/
  setNative : β → String → Option Severity → β

/-- The loggers of the process. -/
structure LoggerTree where
  /-- Each known logger with its own level, none when it inherits. -/
  levels : NameTable (Option Severity)
deriving DecidableEq, Repr, Inhabited

/-- The two kinds of place that records go to. -/
inductive SinkKind where
  /-- Consoles and files of the process, behind the installed filter. -/
  | localSink
  /-- The telemetry stream, which no filter stands in front of. -/
  | exportSink
deriving DecidableEq, Repr

namespace LoggerTree

/-- A tree that knows the root alone. -/
def new (root : Severity) : LoggerTree :=
  ⟨NameTable.empty.insert LoggerName.root (some root)⟩

/-- Makes a logger and those enclosing it known. A level replaces the one it
had; without a level a known logger is left as it is. -/
def register (t : LoggerTree) (name : String) (level : Option Severity) : LoggerTree :=
  let enclosing := (LoggerName.ancestors name).foldl (fun l a => l.insertIfNew a none) t.levels
  ⟨match level with
    | some s => enclosing.insert name (some s)
    | none => enclosing.insertIfNew name none⟩

/-- Registers a list of loggers in order. -/
def registerAll (t : LoggerTree) (loggers : List (String × Option Severity)) : LoggerTree :=
  loggers.foldl (fun t l => t.register l.1 l.2) t

/-- The own level of a known logger. -/
def native? (t : LoggerTree) (name : String) : Option (Option Severity) :=
  t.levels.get? name

/-- The own level of a logger that has one. -/
def ownLevel? (t : LoggerTree) (name : String) : Option Severity :=
  (t.native? name).join

/-- The level of the root, `info` should it ever have none. -/
def rootLevel (t : LoggerTree) : Severity :=
  (t.ownLevel? LoggerName.root).getD .info

/-- The level in force: that of the first of the lineage that has its own, or
the root's. -/
def effective (t : LoggerTree) (name : String) : Severity :=
  ((LoggerName.lineage name).findSome? t.ownLevel?).getD t.rootLevel

/-- Replaces the own level of a known logger. The root's cannot be taken away. -/
def setNative (t : LoggerTree) (name : String) (level : Option Severity) : LoggerTree :=
  if name = LoggerName.root ∧ level = none then t
  else if t.levels.contains name then ⟨t.levels.insert name level⟩
  else t

/-- What is reported when a level is replaced: an attempt on the root's. -/
def setNotices (_ : LoggerTree) (name : String) (level : Option Severity) : List Notice :=
  if name = LoggerName.root ∧ level = none then [.rootLevelKept] else []

/-- Every known logger with its effective level, in ascending order. -/
def loggers (t : LoggerTree) : List (String × Severity) :=
  t.levels.names.map (fun n => (n, t.effective n))

instance : LoggerBackend LoggerTree := ⟨loggers, native?, effective, setNative⟩

/-- Whether a record reaches the sinks at all. -/
def isEnabled (t : LoggerTree) (name : String) (s : Severity) : Bool :=
  decide (t.effective name ≤ s)

/-- Whether a record reaches a sink, given the filter before local sinks. -/
def accepts (t : LoggerTree) (filter : String → Severity → Bool) (name : String) (s : Severity)
    (sink : SinkKind) : Bool :=
  t.isEnabled name s &&
    match sink with
    | .exportSink => true
    | .localSink => filter name s

end LoggerTree

end TelemetryControl
