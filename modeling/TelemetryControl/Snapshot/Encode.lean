/-
TelemetryControl.Snapshot.Encode — snapshots and reports as JSON.

The two lists of entries are always written; a ratio or an inventory only
if there is one. A report tells who the agent is and what it has in force,
with the inventory of its loggers filled in.
-/
import TelemetryControl.Json
import TelemetryControl.Snapshot

namespace TelemetryControl

/-- The JSON of an entry. -/
def LevelEntry.toJson (e : LevelEntry) : Json :=
  .record [("logger", .str e.logger), ("level", .str e.level)]

namespace Snapshot

/-- The JSON of a table of severities. -/
def severitiesJson (t : NameTable Severity) : Json :=
  .record (t.toList.map (fun p => (p.1, .str p.2.name)))

/-- The JSON of a snapshot. -/
def toJson (s : Snapshot) : Json :=
  .record
    ([("logLevels", .array (s.logLevels.map LevelEntry.toJson)),
      ("samplingLogLevels", .array (s.samplingLogLevels.map LevelEntry.toJson))] ++
      (match s.sampleRatio with
        | some r => [("sampleRatio", .real r)]
        | none => []) ++
      (match s.availableLoggers with
        | some t => [("availableLoggers", severitiesJson t)]
        | none => []))

/-- The JSON of a table from services to snapshots. -/
def servicesJson (services : NameTable Snapshot) : Json :=
  .record (services.toList.map (fun p => (p.1, p.2.toJson)))

end Snapshot

/-- What the agent tells the control endpoint about itself. -/
structure AgentReport where
  serviceName : String
  instanceId : String
  effectiveConfig : Snapshot
deriving DecidableEq, Repr

/-- The JSON of a report. -/
def AgentReport.toJson (r : AgentReport) : Json :=
  .record [("serviceName", .str r.serviceName), ("instanceId", .str r.instanceId),
    ("effectiveConfig", r.effectiveConfig.toJson)]

end TelemetryControl
