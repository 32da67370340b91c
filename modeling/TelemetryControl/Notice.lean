/-
TelemetryControl.Notice — what the agent has to say about its own work.

Each thing that the agent reports is one constructor, holding the values
that the report names. `event` gives it a level, a module, a wording and
fields. Keeping the two apart lets the operations return notices and leaves
every wording in one place.
-/
import TelemetryControl.Event
import TelemetryControl.Snapshot

namespace TelemetryControl

/-- The two lists of entries in a snapshot. -/
inductive EntryTable where
  | logLevels
  | samplingLogLevels
deriving DecidableEq, Repr

/-- The name of a list of entries in payloads and events. -/
def EntryTable.name : EntryTable → String
  | .logLevels => "logLevels"
  | .samplingLogLevels => "samplingLogLevels"

/-- A report of the agent about itself. -/
inductive Notice where
  | registryCreated (loggers : Nat) (rootLevel : Severity)
  | rootLevelKept
  | entrySkipped (table : EntryTable) (entry : LevelEntry) (fault : Fault)
  | levelInstalled (logger : String) (requested installed : Severity)
  | levelRestored (logger : String) (level : Option Severity)
  | serviceMissing (service : String) (services : Nat)
  | ratioRejected (fault : Fault) (previous : Binary64)
  | snapshotApplied (active sampling restored skipped : Nat) (sampler : String)
  | loopStarting (source : String) (interval : Binary64)
  | wakeClosed
  | wakeReceived
  | cycleFailed (fault : Fault)
  | fetchAbandoned
  | loopStopped
  | adminRejected (path : String)
  | adminListening (address : String)
  | watcherStarted (path : String)
  | fileChanged (path : String)
  | agentStarting
  | metricsAddressRejected (address : String)
  | metricsListening (address : String)
  | agentStarted (service instanceId sampler : String)
  | signalReceived (signal : String)
  | shutdownReceived
  | agentStopped
  | shutdownComplete
deriving DecidableEq, Repr

namespace Notice

/-- The event that reports a notice. -/
def event : Notice → Event
  | registryCreated loggers rootLevel =>
    ⟨.info, "telemetry_dial::levels::registry", "Level registry created",
      [("loggers", .count loggers), ("root_level", .shown rootLevel.name)]⟩
  | rootLevelKept =>
    ⟨.debug, "telemetry_dial::levels::tree", "Ignoring attempt to clear the root logger level", []⟩
  | entrySkipped table entry fault =>
    ⟨.warn, "telemetry_dial::levels::registry", "Skipping level override",
      [("table", .text table.name), ("logger", .shown entry.logger), ("level", .shown entry.level),
       ("error", .shown fault.message)]⟩
  | levelInstalled logger requested installed =>
    ⟨.debug, "telemetry_dial::levels::registry", "Installing logger level",
      [("logger", .text logger), ("requested", .shown requested.name),
       ("installed", .shown installed.name)]⟩
  | levelRestored logger level =>
    ⟨.debug, "telemetry_dial::levels::registry", "Restoring baseline logger level",
      [("logger", .text logger), ("level", .shown (Severity.shown level))]⟩
  | serviceMissing service services =>
    ⟨.debug, "telemetry_dial::control::snapshot", "No snapshot for this service",
      [("service", .text service), ("services", .count services)]⟩
  | ratioRejected fault previous =>
    ⟨.warn, "telemetry_dial::control::control_loop", "Rejected sample ratio, keeping previous",
      [("error", .shown fault.message), ("previous", .number previous)]⟩
  | snapshotApplied active sampling restored skipped sampler =>
    ⟨.info, "telemetry_dial::control::control_loop", "Applied configuration snapshot",
      [("active", .count active), ("sampling", .count sampling), ("restored", .count restored),
       ("skipped", .count skipped), ("sampler", .shown sampler)]⟩
  | loopStarting source interval =>
    ⟨.info, "telemetry_dial::control::control_loop", "Control loop starting",
      [("source", .shown source), ("interval_secs", .number interval)]⟩
  | wakeClosed =>
    ⟨.debug, "telemetry_dial::control::control_loop",
      "Wake-up channel closed, polling on interval only", []⟩
  | wakeReceived =>
    ⟨.debug, "telemetry_dial::control::control_loop",
      "Wake-up received, running out-of-band cycle", []⟩
  | cycleFailed fault =>
    ⟨.warn, "telemetry_dial::control::control_loop", "Control cycle failed, waiting for next tick",
      [("error", .shown fault.message), ("kind", .text fault.kind)]⟩
  | fetchAbandoned =>
    ⟨.info, "telemetry_dial::control::control_loop",
      "Shutdown during control cycle, abandoning fetch", []⟩
  | loopStopped =>
    ⟨.info, "telemetry_dial::control::control_loop",
      "Control loop received shutdown signal, exiting loop", []⟩
  | adminRejected path =>
    ⟨.debug, "telemetry_dial::admin::auth", "Rejected admin request", [("path", .shown path)]⟩
  | adminListening address =>
    ⟨.info, "telemetry_dial::admin", "Admin API listening", [("address", .shown address)]⟩
  | watcherStarted path =>
    ⟨.info, "telemetry_dial::config::watcher", "Snapshot watcher started",
      [("path", .shown (Text.Quoted.quote path))]⟩
  | fileChanged path =>
    ⟨.debug, "telemetry_dial::config::watcher", "Snapshot file change detected",
      [("path", .shown (Text.Quoted.quote path))]⟩
  | agentStarting => ⟨.info, "telemetry_dial", "telemetry-dial v0.1.0 starting", []⟩
  | metricsAddressRejected address =>
    ⟨.error, "telemetry_dial", "Failed to parse metrics address",
      [("metrics_address", .shown address)]⟩
  | metricsListening address =>
    ⟨.info, "telemetry_dial::observability::metrics", "Metrics exporter listening",
      [("address", .shown address)]⟩
  | agentStarted service instanceId sampler =>
    ⟨.info, "telemetry_dial::lifecycle::startup", "Agent started",
      [("service_name", .shown service), ("instance_id", .shown instanceId),
       ("sampler", .shown sampler)]⟩
  | signalReceived signal =>
    ⟨.info, "telemetry_dial::lifecycle::signals", signal ++ " received", []⟩
  | shutdownReceived => ⟨.info, "telemetry_dial", "Shutdown signal received", []⟩
  | agentStopped => ⟨.info, "telemetry_dial::lifecycle::startup", "Agent stopped", []⟩
  | shutdownComplete => ⟨.info, "telemetry_dial", "Shutdown complete", []⟩

end Notice

end TelemetryControl
