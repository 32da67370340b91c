/-
TelemetryControl.Config.Load — configurations out of files.

A configuration file is TOML. It is used only if it can be read, holds a
configuration, and nothing is wrong with that.
-/
import TelemetryControl.Config.Problem
import TelemetryControl.Directory
import TelemetryControl.Toml.Reader

namespace TelemetryControl

/-- Why a configuration cannot be used. -/
inductive ConfigFault where
  | unreadable (fault : FileFault)
  /-- The text is not TOML, or holds no configuration. What the parser says of it is
  left out. -/
  | malformed
  | invalid (problems : List ConfigProblem)
deriving DecidableEq, Repr

namespace ConfigFault

/-- The wording of a fault. -/
def message : ConfigFault → String
  | unreadable fault => "IO error: " ++ fault.message
  | malformed => "Parse error: not a configuration"
  | invalid problems =>
    "Validation failed: " ++ String.intercalate ", " (problems.map ConfigProblem.message)

/-- The fields of a fault as a shown value. -/
def shown : ConfigFault → String
  | unreadable fault => "Io(" ++ fault.shown ++ ")"
  | malformed => "Parse(\"not a configuration\")"
  | invalid problems =>
    "Validation([" ++ String.intercalate ", " (problems.map ConfigProblem.shown) ++ "])"

end ConfigFault

namespace Config

/-- The configuration that a text holds, if nothing is wrong with it. -/
def parse (text : String) : Except ConfigFault Config :=
  match (Toml.parse? text).bind (ofDocument? .lenient) with
  | none => .error .malformed
  | some c => if c.problems = [] then .ok c else .error (.invalid c.problems)

/-- The configuration of a file. -/
def load (d : Directory) (path : String) : Except ConfigFault Config :=
  match d.readText path with
  | .error f => .error (.unreadable f)
  | .ok text => parse text

end Config

end TelemetryControl
