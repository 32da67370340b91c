/-
TelemetryControl.Agent — a configured agent.

Starting an agent makes its sampler and its source, watches the snapshot
file if that is wanted, prepares the control loop, and finds out where to
listen for operators. The first of these that fails is why the agent does
not start. The loop then polls at the configured interval, at least one
second.
-/
import TelemetryControl.Config
import TelemetryControl.ControlLoop
import TelemetryControl.SocketAddress.Listening
import TelemetryControl.Source
import TelemetryControl.Watch

namespace TelemetryControl

/-- Why an agent does not start. -/
inductive StartFault where
  /-- The ratio or the source is no good. -/
  | unusable (fault : Fault)
  /-- The directory of the snapshot file cannot be watched. -/
  | unwatchable
  | cannotListen (fault : ListenFault)
deriving DecidableEq, Repr

/-- A fault as the program shows it. -/
def StartFault.shown : StartFault → String
  | .unusable f => "Dial(" ++ Text.Quoted.quote f.message ++ ")"
  | .unwatchable => "Watch(\"the directory cannot be watched\")"
  | .cannotListen f => "Io(" ++ f.shown ++ ")"

/-- An agent ready to run. -/
structure Agent where
  source : Source
  /-- The watch over the snapshot file, if there is one. -/
  watch : Option Watch
  /-- Seconds between polls. -/
  interval : Nat
  /-- Where operators may ask, if anywhere. -/
  address : Option SocketAddress
  loop : ControlLoop

namespace Agent

/-- The path of the file to watch, if one is to be watched. -/
def watchedPath? (c : ControlConfig) : Option String :=
  if c.source = .file ∧ c.watch = true then c.path else none

/-- The watch that a configuration wants, if any. -/
def startWatch (c : ControlConfig) (d : Directory) : Except StartFault (Option Watch) :=
  match watchedPath? c with
  | none => .ok none
  | some path =>
    match Watch.start? d path with
    | some w => .ok (some w)
    | none => .error .unwatchable

/-- Where a configuration wants operators to ask, if anywhere. -/
def listen (c : AdminConfig) : Except StartFault (Option SocketAddress) :=
  if c.enabled then
    match SocketAddress.toListen c.bindAddress with
    | .ok a => .ok (some a)
    | .error f => .error (.cannotListen f)
  else .ok none

/-- Seconds between polls. -/
def pollInterval (c : ControlConfig) : Nat :=
  max c.pollIntervalSecs 1

/-- Starts the agent of a configuration over the loggers of a pipeline. An
identity is given for one that is not configured. -/
def start (c : Config) (identity : String) (d : Directory) (p : Pipeline) :
    Except StartFault Agent :=
  match Sampler.new c.control.initialSampleRatio with
  | .error f => .error (.unusable f)
  | .ok sampler =>
    match Source.ofConfig c.control with
    | .error f => .error (.unusable f)
    | .ok source =>
      match startWatch c.control d with
      | .error f => .error f
      | .ok watch =>
        match listen c.admin with
        | .error f => .error f
        | .ok address =>
          let control :=
            (Control.new p sampler source.format source.layout).withIdentity c.serviceName
              (c.instanceId.getD identity)
          .ok ⟨source, watch, pollInterval c.control, address,
            .new control (if watch.isSome then .opened else .absent)⟩

/-- What an agent reports as it starts. -/
def startNotices (a : Agent) (c : Config) : List Notice :=
  let control := a.loop.control
  ((watchedPath? c.control).map .watcherStarted).toList ++
    [.loopStarting a.source.description (.ofInt a.interval)] ++
    (a.address.map (fun s => .adminListening s.text)).toList ++
    [.agentStarted control.service control.instanceId control.sampler.description]

end Agent

end TelemetryControl
