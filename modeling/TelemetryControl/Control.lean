/-
TelemetryControl.Control — one control cycle.

A cycle sends a report, receives a payload, and commits the snapshot in it:
the overrides to the registry, and the ratio to the sampler unless it is out
of range, which costs the ratio alone. A payload that could not be had, or
that holds no snapshot, changes nothing. What the next report shows as in
force is the last snapshot committed, with the ratio that is really in force
and with the inventory of the registry.
-/
import TelemetryControl.Gate
import TelemetryControl.Metrics
import TelemetryControl.Sampling.Sampler
import TelemetryControl.Snapshot.Decode
import TelemetryControl.Snapshot.Encode

namespace TelemetryControl

/-- What a control loop acts on, and what it goes by. -/
structure Control where
  pipeline : Pipeline
  sampler : Sampler
  /-- The last snapshot committed, with the ratio in force. -/
  lastApplied : Snapshot
  service : String
  instanceId : String
  format : PayloadFormat
  layout : PayloadLayout

/-- What a cycle leaves: the state, its result, and its account. -/
structure CycleResult where
  control : Control
  result : Except Fault ApplyOutcome
  notices : List Notice
  measurements : List Measurement

namespace Control

/-- The name of a service that has none. -/
def unknownService : String := "unknown_service"

/-- Control over a pipeline and a sampler, nothing committed yet. -/
def new (pipeline : Pipeline) (sampler : Sampler) (format : PayloadFormat)
    (layout : PayloadLayout) : Control :=
  { pipeline := pipeline
    sampler := sampler
    lastApplied := { Snapshot.empty with sampleRatio := some sampler.ratio }
    service := unknownService
    instanceId := ""
    format := format
    layout := layout }

/-- The same under an identity. -/
def withIdentity (c : Control) (service instanceId : String) : Control :=
  { c with service := service, instanceId := instanceId }

/-- The report of a cycle. -/
def report (c : Control) : AgentReport :=
  ⟨c.service, c.instanceId,
    { c.lastApplied with availableLoggers := some c.pipeline.registry.available }⟩

/-- The sampler after a snapshot, and the fault of a ratio that was refused. -/
def commitRatio (s : Sampler) (ratio : Option Binary64) : Sampler × Option Fault :=
  match ratio with
  | none => (s, none)
  | some r => s.setRatio r

/-- Commits a snapshot. -/
def commit (c : Control) (snapshot : Snapshot) : CycleResult :=
  let levels := c.pipeline.registry.apply c.pipeline.tree snapshot
  let (sampler, refused) := commitRatio c.sampler snapshot.sampleRatio
  let outcome := { levels.outcome with skipped := levels.outcome.skipped ++ refused.toList }
  { control :=
      { c with
        pipeline := { c.pipeline with tree := levels.backend, registry := levels.registry }
        sampler := sampler
        lastApplied :=
          { snapshot with sampleRatio := some sampler.ratio, availableLoggers := none } }
    result := .ok outcome
    notices :=
      levels.notices ++
        (match refused with
          | some f => [.ratioRejected f c.sampler.ratio]
          | none => []) ++
        [.snapshotApplied outcome.active outcome.sampling outcome.restored outcome.skipped.length
          sampler.description]
    measurements :=
      levels.outcome.measurements ++
        (match snapshot.sampleRatio, refused with
          | some r, none => [.sampleRatio r]
          | _, _ => []) ++
        [.cycle "applied"] }

/-- Ends a cycle with what was fetched. -/
def finish (c : Control) (fetched : Except Fault (List UInt8)) : CycleResult :=
  match fetched with
  | .error f => ⟨c, .error f, [], [.cycle f.kind]⟩
  | .ok payload =>
    match Snapshot.decode c.format c.layout c.service payload with
    | .error f => ⟨c, .error f, [], [.cycle f.kind]⟩
    | .ok decoded =>
      let done := c.commit decoded.snapshot
      { done with notices := decoded.notices ++ done.notices }

end Control

end TelemetryControl
