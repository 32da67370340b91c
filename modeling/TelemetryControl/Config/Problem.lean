/-
TelemetryControl.Config.Problem — what may be wrong with a configuration.

A configuration that could be read may still not make sense. All its
problems are listed at once, in a fixed order, so that an operator can mend
them in one go.
-/
import TelemetryControl.Config
import TelemetryControl.Text.Quoted
import TelemetryControl.Url

namespace TelemetryControl

/-- A thing that is wrong with a configuration. -/
inductive ConfigProblem where
  /-- The endpoint is no locator that requests can go to. -/
  | invalidEndpoint (endpoint : String)
  /-- Snapshots are to come from a file that is not named. -/
  | missingPath
  | zeroPollInterval
  | zeroRequestTimeout
  | invalidSampleRatio (ratio : Binary64)
  /-- A level text that names no severity. -/
  | invalidLevel (field level : String)
  /-- Operators may look in with a key that is blank. -/
  | emptyApiKey
deriving DecidableEq, Repr

namespace ConfigProblem

/-- What a problem is called. -/
def name : ConfigProblem → String
  | invalidEndpoint _ => "InvalidEndpoint"
  | missingPath => "MissingPath"
  | zeroPollInterval => "ZeroPollInterval"
  | zeroRequestTimeout => "ZeroRequestTimeout"
  | invalidSampleRatio _ => "InvalidSampleRatio"
  | invalidLevel _ _ => "InvalidLevel"
  | emptyApiKey => "EmptyApiKey"

/-- The wording of a problem. -/
def message : ConfigProblem → String
  | invalidEndpoint endpoint => "control.endpoint is not an http(s) URL: " ++ endpoint
  | missingPath => "control.path is required for the file source"
  | zeroPollInterval => "control.poll_interval_secs must be greater than 0"
  | zeroRequestTimeout => "control.request_timeout_secs must be greater than 0"
  | invalidSampleRatio ratio =>
    "control.initial_sample_ratio must be in [0.0, 1.0], got " ++ Layout.plain.write ratio
  | invalidLevel field level => "invalid level '" ++ level ++ "' for " ++ field
  | emptyApiKey => "admin.api_key must not be empty when the admin API is enabled"

/-- The fields of a problem as a shown value. -/
def shown (p : ConfigProblem) : String :=
  match p with
  | invalidEndpoint endpoint => p.name ++ "(" ++ Text.Quoted.quote endpoint ++ ")"
  | invalidSampleRatio ratio => p.name ++ "(" ++ Layout.field.write ratio ++ ")"
  | invalidLevel field level =>
    p.name ++ " \x7b field: " ++ Text.Quoted.quote field ++ ", level: " ++
      Text.Quoted.quote level ++ " \x7d"
  | p => p.name

end ConfigProblem

namespace Config

/-- The problem of a level text, if it names no severity. -/
def levelProblem? (field level : String) : Option ConfigProblem :=
  if (Severity.ofText? level).isSome then none else some (.invalidLevel field level)

/-- Whether requests can go to an endpoint. -/
def isWebEndpoint (endpoint : String) : Bool :=
  match Url.parse endpoint with
  | .ok u => u.isWeb
  | .error _ => false

/-- The problem of the chosen source, if it lacks what it needs. -/
def sourceProblem? (c : ControlConfig) : Option ConfigProblem :=
  match c.source with
  | .http => if isWebEndpoint c.endpoint then none else some (.invalidEndpoint c.endpoint)
  | .file => if c.path.all String.isEmpty then some .missingPath else none

/-- All that is wrong with a configuration, in order. -/
def problems (c : Config) : List ConfigProblem :=
  (sourceProblem? c.control).toList ++
    (if c.control.pollIntervalSecs = 0 then [.zeroPollInterval] else []) ++
    (if c.control.requestTimeoutSecs = 0 then [.zeroRequestTimeout] else []) ++
    (if c.control.initialSampleRatio.InUnitInterval then []
      else [.invalidSampleRatio c.control.initialSampleRatio]) ++
    (levelProblem? "observability.log_level" c.observability.logLevel).toList ++
    c.loggers.toList.filterMap (fun l => levelProblem? ("loggers." ++ l.1) l.2) ++
    (if c.admin.enabled && Text.isBlankText c.admin.apiKey then [.emptyApiKey] else [])

end Config

end TelemetryControl
