/-
TelemetryControl.Config — what the local operator configures.

A configuration has a default for every field, so the empty one is
complete. It says who the agent is, where its snapshots come from and how
often, where it logs, whether operators may look in, and what levels the
loggers have before any snapshot.
-/
import TelemetryControl.Document

namespace TelemetryControl

/-- Where snapshots come from. -/
inductive SourceKind where
  /-- A control endpoint, asked over HTTP. -/
  | http
  /-- A local file. -/
  | file
deriving DecidableEq, Repr

/-- The name of a kind of source in configurations. -/
def SourceKind.name : SourceKind → String
  | .http => "http"
  | .file => "file"

/-- Settings of the control loop. -/
structure ControlConfig where
  source : SourceKind
  endpoint : String
  path : Option String
  pollIntervalSecs : Nat
  requestTimeoutSecs : Nat
  initialSampleRatio : Binary64
  watch : Bool
deriving DecidableEq, Repr

/-- Settings of logging and metrics. -/
structure ObservabilityConfig where
  logLevel : String
  streamPath : Option String
  metricsEnabled : Bool
  metricsAddress : String
deriving DecidableEq, Repr

/-- Settings of the API for operators. -/
structure AdminConfig where
  enabled : Bool
  apiKey : String
  bindAddress : String
deriving DecidableEq, Repr

/-- A configuration. -/
structure Config where
  serviceName : String
  /-- The identity of the process; none when one is to be made up. -/
  instanceId : Option String
  control : ControlConfig
  observability : ObservabilityConfig
  admin : AdminConfig
  /-- The levels of loggers, as written. -/
  loggers : NameTable String
deriving DecidableEq, Repr

/-! ## 1. Defaults -/

def ControlConfig.default : ControlConfig :=
  { source := .http
    endpoint := "http://localhost:12345/api/v0/debugdial"
    path := none
    pollIntervalSecs := 10
    requestTimeoutSecs := 5
    initialSampleRatio := .one
    watch := true }

def ObservabilityConfig.default : ObservabilityConfig :=
  { logLevel := "info"
    streamPath := none
    metricsEnabled := false
    metricsAddress := "0.0.0.0:9090" }

/-- The key is a stand-in that operators have to replace. -/
def AdminConfig.default : AdminConfig :=
  { enabled := false
    apiKey := "CHANGE_ME_IN_PRODUCTION"
    bindAddress := "127.0.0.1:8081" }

def Config.default : Config :=
  { serviceName := "unknown_service"
    instanceId := none
    control := .default
    observability := .default
    admin := .default
    loggers := .empty }

/-! ## 2. Reading -/

/-- A kind of source by its name, or by its name with nothing said about it. -/
def SourceKind.ofDocument? (strictness : Strictness) (d : Document) : Option SourceKind :=
  let named (s : Option String) : Option SourceKind :=
    if s = some "http" then some .http else if s = some "file" then some .file else none
  match d with
  | .text s => named s
  | .record [(name, v)] => if v.isVoid strictness then named name else none
  | _ => none

namespace ControlConfig

/-- The settings of a document; a field that is not given has its default. -/
def ofDocument? (strictness : Strictness) (d : Document) : Option ControlConfig := do
  match ← d.fields? strictness ["source", "endpoint", "path", "poll_interval_secs",
      "request_timeout_secs", "initial_sample_ratio", "watch"] with
  | [source, endpoint, path, poll, timeout, ratio, watch] =>
    some {
      source := ← Document.orDefault default.source (SourceKind.ofDocument? strictness) source
      endpoint := ← Document.orDefault default.endpoint Document.text? endpoint
      path := ← Document.orDefault default.path (Document.optional? Document.text?) path
      pollIntervalSecs := ← Document.orDefault default.pollIntervalSecs Document.word? poll
      requestTimeoutSecs := ← Document.orDefault default.requestTimeoutSecs Document.word? timeout
      initialSampleRatio := ← Document.orDefault default.initialSampleRatio Document.real? ratio
      watch := ← Document.orDefault default.watch Document.boolean? watch }
  | _ => none

end ControlConfig

namespace ObservabilityConfig

/-- The settings of a document. -/
def ofDocument? (strictness : Strictness) (d : Document) : Option ObservabilityConfig := do
  match ← d.fields? strictness
      ["log_level", "export_path", "metrics_enabled", "metrics_address"] with
  | [level, path, enabled, address] =>
    some {
      logLevel := ← Document.orDefault default.logLevel Document.text? level
      streamPath :=
        ← Document.orDefault default.streamPath (Document.optional? Document.text?) path
      metricsEnabled := ← Document.orDefault default.metricsEnabled Document.boolean? enabled
      metricsAddress := ← Document.orDefault default.metricsAddress Document.text? address }
  | _ => none

end ObservabilityConfig

namespace AdminConfig

/-- The settings of a document. -/
def ofDocument? (strictness : Strictness) (d : Document) : Option AdminConfig := do
  match ← d.fields? strictness ["enabled", "api_key", "bind_address"] with
  | [enabled, key, address] =>
    some {
      enabled := ← Document.orDefault default.enabled Document.boolean? enabled
      apiKey := ← Document.orDefault default.apiKey Document.text? key
      bindAddress := ← Document.orDefault default.bindAddress Document.text? address }
  | _ => none

end AdminConfig

namespace Config

/-- The configuration of a document. -/
def ofDocument? (strictness : Strictness) (d : Document) : Option Config := do
  match ← d.fields? strictness ["service_name", "instance_id", "control", "observability", "admin",
      "loggers"] with
  | [service, identity, control, observability, admin, loggers] =>
    some {
      serviceName := ← Document.orDefault default.serviceName Document.text? service
      instanceId :=
        ← Document.orDefault default.instanceId (fun d => d.text?.map some) identity
      control := ← Document.orDefault default.control (ControlConfig.ofDocument? strictness) control
      observability :=
        ← Document.orDefault default.observability (ObservabilityConfig.ofDocument? strictness)
          observability
      admin := ← Document.orDefault default.admin (AdminConfig.ofDocument? strictness) admin
      loggers :=
        ← Document.orDefault default.loggers (Document.table? Document.text?) loggers }
  | _ => none

end Config

end TelemetryControl
