/-
TelemetryControl.Config.Loggers — the loggers that a configuration asks for.

The tree starts with the root at the configured level, then with the
loggers of the agent itself, which inherit, then with every configured
logger in ascending order of its name as written. Names that mean the same
logger overwrite each other, so the greatest spelling counts.
-/
import TelemetryControl.Config
import TelemetryControl.LoggerTree

namespace TelemetryControl.Config

/-- The loggers that the agent itself writes to. -/
def ownLoggers : List String :=
  ["telemetry_dial.control.control_loop", "telemetry_dial.levels.registry",
   "telemetry_dial.config.watcher", "telemetry_dial.admin"]

/-- The configured loggers with their levels, names and levels read. -/
def loggerLevels (c : Config) : Except Fault (List (String × Severity)) :=
  c.loggers.toList.mapM (fun l =>
    (Severity.parse l.2).map (fun s => (LoggerName.normalize l.1, s)))

/-- The tree of a configuration; the first level that cannot be read is the
fault. -/
def tree (c : Config) : Except Fault LoggerTree :=
  match Severity.parse c.observability.logLevel with
  | .error f => .error f
  | .ok root =>
    match c.loggerLevels with
    | .error f => .error f
    | .ok levels =>
      let own := (LoggerTree.new root).registerAll (ownLoggers.map (fun n => (n, none)))
      .ok (own.registerAll (levels.map (fun l => (l.1, some l.2))))

end TelemetryControl.Config
