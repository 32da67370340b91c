/-
TelemetryControl.Snapshot — one remote configuration.

A snapshot asks for thresholds by logger, for sampling thresholds by
logger, and perhaps for a sample ratio. The level of an entry stays the text
it came as, so that one bad entry costs that entry and not the snapshot. The
inventory of loggers is only ever reported, never acted upon.
-/
import TelemetryControl.NameTable
import TelemetryControl.Severity

namespace TelemetryControl

/-- One entry of a snapshot: a logger and a level, both as written. -/
structure LevelEntry where
  logger : String
  level : String
deriving DecidableEq, Repr, Inhabited

/-- A remote configuration. -/
structure Snapshot where
  logLevels : List LevelEntry
  samplingLogLevels : List LevelEntry
  /-- The ratio asked for; the one in force is kept if there is none. -/
  sampleRatio : Option Binary64
  /-- The loggers of the process, in reports alone. -/
  availableLoggers : Option (NameTable Severity)
deriving DecidableEq, Repr

namespace Snapshot

/-- The snapshot that asks for nothing. -/
def empty : Snapshot := ⟨[], [], none, none⟩

instance : Inhabited Snapshot := ⟨empty⟩

end Snapshot

end TelemetryControl
