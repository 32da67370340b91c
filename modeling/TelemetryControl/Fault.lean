/-
TelemetryControl.Fault — what can go wrong, by cause.

Three scopes of failure share one type. A ratio out of range and a bad
level entry cost that one item of a snapshot; a transport or parse failure
costs one cycle. `kind` is the short label of a cause, for metrics and
event fields, and `message` is its wording.
-/
import TelemetryControl.Number.Layout

namespace TelemetryControl

/-- A cause of failure. -/
inductive Fault where
  /-- A sample ratio outside 0 to 1. -/
  | invalidRatio (ratio : Binary64)
  /-- A level text that names no severity. -/
  | unknownSeverity (text : String)
  /-- An entry for a logger that was never registered. -/
  | unknownLogger (name : String)
  /-- The payload could not be obtained. -/
  | transport (reason : String)
  /-- A text could not be read as what it should be. -/
  | parse (reason : String)
deriving DecidableEq, Repr

namespace Fault

/-- The short label of a cause. -/
def kind : Fault → String
  | invalidRatio _ => "invalid_argument"
  | unknownSeverity _ => "unknown_severity"
  | unknownLogger _ => "unknown_logger"
  | transport _ => "transport"
  | parse _ => "parse"

/-- The wording of a cause. -/
def message : Fault → String
  | invalidRatio ratio => "ratio must be in range [0.0, 1.0], got " ++ Layout.plain.write ratio
  | unknownSeverity text => "unknown severity: " ++ text
  | unknownLogger name => "logger not found: " ++ name
  | transport reason => "transport error: " ++ reason
  | parse reason => "parse error: " ++ reason

end Fault

end TelemetryControl
